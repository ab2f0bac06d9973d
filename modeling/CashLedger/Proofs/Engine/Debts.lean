import CashLedger.Proofs.Engine.Outcome

/-!
# Debts keep their records and their debtors

A debt is made with one record for each amount that it moves, loses them all when
it is changed or deleted, and gets new ones when it is changed.  With each of this
the debtor's balance moves by as much as the debt's nominal amount.
-/

namespace CashLedger.Engine

open Work Posting

variable {promise : Promise} {limits : Limits} {snapshot : Tables} {supply : Supply}
  {mandate : Mandate} {first last : Course} {records : Table Record}

/-! ## Debtors -/

theorem perform_findDebtor {id : DebtorId} {debtor : Debtor}
    (hperform : (findDebtor id).perform first = .ok (debtor, last)) :
    first.unit.working.debtors.find? id = some debtor ∧
      last = first.answered (.debtorById id) first.unit := by
  obtain ⟨found, _, hask, hrequire⟩ := perform_bind_eq_ok.mp hperform
  obtain ⟨rfl, rfl⟩ := (perform_read_eq_ok rfl).mp hask
  exact perform_require_eq_ok.mp hrequire

theorem perform_findDebt {id : DebtId} {debt : Debt}
    (hperform : (findDebt id).perform first = .ok (debt, last)) :
    first.unit.working.debts.find? id = some debt ∧
      last = first.answered (.debtById id) first.unit := by
  obtain ⟨found, _, hask, hrequire⟩ := perform_bind_eq_ok.mp hperform
  obtain ⟨rfl, rfl⟩ := (perform_read_eq_ok rfl).mp hask
  exact perform_require_eq_ok.mp hrequire

theorem perform_adjustDebtor {debtor after : Debtor} {change : Amount}
    (hperform : (adjustDebtor debtor change).perform first = .ok (after, last)) :
    debtor.Adjusted change.toInt after ∧ last = first.clocked := by
  obtain ⟨now, _, hnow, hcheck⟩ := perform_bind_eq_ok.mp hperform
  obtain ⟨-, rfl⟩ := perform_now_eq_ok.mp hnow
  obtain ⟨hadjust, rfl⟩ := perform_check_eq_ok.mp hcheck
  refine ⟨?_, rfl⟩
  simp only [Debtor.adjust] at hadjust
  split at hadjust
  · next balance hsum =>
    cases hadjust
    exact ⟨rfl, rfl, rfl, rfl, Amount.add?_eq_some_iff.mp hsum⟩
  · cases hadjust

/-- A changed debtor is stored with the next version. -/
theorem perform_updateDebtor {debtor stored : Debtor}
    (hperform : (ask (.updateDebtor debtor)).perform first = .ok (stored, last)) :
    debtor.Adjusted 0 stored ∧ ∃ base,
      last = first.answered (.updateDebtor debtor) (first.unit.writeDebtor stored base) := by
  obtain ⟨unit, hanswer, rfl⟩ := perform_ask_eq_ok.mp hperform
  obtain ⟨current, -, -, rfl, rfl⟩ := MemoryUnit.updateDebtor_eq_ok.mp hanswer
  exact ⟨⟨rfl, rfl, rfl, rfl, (Int.add_zero _).symm⟩, _, rfl⟩

/-- A debtor that was found and is stored on the way is a held one. -/
theorem holdsDebtor (htoward : last.Toward mandate) {debtor moved stored : Debtor}
    {change : Int} (hfound : mandate.snapshot.debtors.find? debtor.id = some debtor)
    (hmoved : debtor.Adjusted change moved)
    (hperform : (ask (.updateDebtor moved)).perform first = .ok (stored, last)) :
    mandate.HoldsDebtor debtor.id := by
  obtain ⟨hraised, base, rfl⟩ := perform_updateDebtor hperform
  have hwritten := first.unit.mem_debtorIds_writeDebtor stored base
  rw [hraised.id, hmoved.id] at hwritten
  exact ⟨⟨debtor, hfound⟩, htoward.writes.debtors hwritten⟩

/-- What comes of a debtor whose balance has moved and who is stored. -/
structure DebtorStored (mandate : Mandate) (debtor : Debtor) (change : Int)
    (first last : Course) (records : Table Record) (stored : Debtor) : Prop where
  adjusted : debtor.Adjusted change stored
  standing : Standing mandate last records
  records_eq : last.unit.working.records = first.unit.working.records
  debtors : last.unit.working.debtors = first.unit.working.debtors.insert stored
  debts : last.unit.working.debts = first.unit.working.debts

theorem debtorStored (hstanding : Standing mandate first records)
    {debtor moved stored : Debtor} {change : Int} (hheld : mandate.HoldsDebtor debtor.id)
    (hmoved : debtor.Adjusted change moved)
    (hperform : (ask (.updateDebtor moved)).perform first = .ok (stored, last)) :
    DebtorStored mandate debtor change first last records stored := by
  obtain ⟨hraised, base, rfl⟩ := perform_updateDebtor hperform
  have hwithin : (Call.updateDebtor moved).Within mandate := by
    change mandate.HoldsDebtor moved.id
    rw [hmoved.id]
    exact hheld
  have hadjusted := hmoved.trans hraised
  rw [Int.add_zero] at hadjusted
  exact ⟨hadjusted, hstanding.answered (.updateDebtor moved) _ rfl hwithin, rfl, rfl, rfl⟩

theorem currency_of_checkCurrency {debtor : Debtor} {currency : Currency}
    (hcheck : debtor.checkCurrency currency = .ok ()) : debtor.currency = currency := by
  simp only [Debtor.checkCurrency] at hcheck
  split at hcheck
  · next heq => exact heq
  · cases hcheck

/-! ## Posting the legs of a debt -/

/-- What comes of the legs of a debt that were posted one after the other. -/
structure LegsPosted (promise : Promise) (mandate : Mandate) (debt : Debt) (legs : List Money)
    (first last : Course) (records : Table Record) (posted : List Record) : Prop where
  frame : first.Frame last
  records_eq : last.unit.working.records =
    posted.foldl Table.insert first.unit.working.records
  standing : Standing mandate last (posted.foldl Table.insert records)
  each : ∀ record ∈ posted, debt.HasLeg record
  source : ∀ record ∈ posted, record.source = .debt debt.id
  money : posted.map Record.money = legs
  fresh : ∀ record ∈ posted, records.find? record.id = none
  distinct : (posted.map Record.id).Nodup
  ordered : promise = .increasing →
    posted.Pairwise fun a b => Record.olderFirst a b = true
  drawn : ∀ record ∈ posted, ∃ n, first.supply.issued ≤ n ∧ n < last.supply.issued ∧
    record.id.uuid = mandate.last.supply.uuid n
  createdAt : ∀ record ∈ posted, ∃ n, first.supply.readings ≤ n ∧ n < last.supply.readings ∧
    record.createdAt = mandate.last.supply.moment n

/-- A record is older than those that are posted after it, if the supply promises so. -/
theorem olderFirst_of_posted (hincreasing : mandate.last.supply.Increasing)
    (htoward : last.Toward mandate) {user : UserId} {money : Money} {direction : Direction}
    {source : RecordSource} {middle : Course} {record other : Record}
    (hhead : LegPosted mandate user money direction source first middle records record)
    (hcreated : ∃ n, middle.supply.readings ≤ n ∧ n < last.supply.readings ∧
      other.createdAt = mandate.last.supply.moment n)
    (hdrawn : ∃ n, middle.supply.issued ≤ n ∧ n < last.supply.issued ∧
      other.id.uuid = mandate.last.supply.uuid n) :
    Record.olderFirst record other = true := by
  obtain ⟨i, -, hi, hfirst⟩ := hhead.createdAt
  obtain ⟨j, hj, hlast, hcreated⟩ := hcreated
  obtain ⟨k, hk, hlast', hdrawn⟩ := hdrawn
  have hmoment := hincreasing.moment_le (hi.trans_le hj)
    (hlast.trans_le htoward.supply.readings_le)
  have huuid := hincreasing.uuid_lt (hhead.issued.trans_le hk)
    (hlast'.trans_le htoward.supply.issued_le)
  rw [← hfirst, ← hcreated] at hmoment
  rw [← hhead.drawn, ← hdrawn] at huuid
  rw [Record.olderFirst, olderFirst_eq_true_iff]
  rcases Timestamp.lt_or_eq_of_le hmoment with hlt | heq
  · exact .inl hlt
  · exact .inr ⟨heq, Nat.le_of_lt huuid⟩

theorem legsPosted {debt : Debt} {legs : List Money} {posted : List Record}
    (hkeeps : mandate.last.supply.Keeps promise)
    (hstanding : Standing mandate first records) (htoward : last.Toward mandate)
    (hsource : .debt debt.id = mandate.owner)
    (hperform : (postDebtLegs debt legs).perform first = .ok (posted, last)) :
    LegsPosted promise mandate debt legs first last records posted := by
  induction legs generalizing first records posted with
  | nil =>
    obtain ⟨rfl, rfl⟩ := perform_pure_eq_ok.mp hperform
    exact ⟨.refl _, rfl, hstanding, nofun, nofun, rfl, nofun, .nil, fun _ => .nil, nofun, nofun⟩
  | cons money rest ih =>
    obtain ⟨record, middle, hpost, htail⟩ := perform_bind_eq_ok.mp hperform
    obtain ⟨others, _, hrest, hpure⟩ := perform_bind_eq_ok.mp htail
    obtain ⟨rfl, rfl⟩ := perform_pure_eq_ok.mp hpure
    have hhead := legPosted hkeeps.distinct hstanding (htoward.of_perform hrest) hsource hpost
    have hothers := ih hhead.standing hrest
    have hsupply := (leads_of_perform hrest).supply
    have hfirst := (leads_of_perform hpost).supply
    have hnot : ∀ other ∈ others, other.id ≠ record.id := by
      intro other hmem heq
      have hfresh := hothers.fresh other hmem
      have hthere : (records.insert record).find? record.id = some record :=
        Table.find?_insert_self records record
      rw [heq, hthere] at hfresh
      cases hfresh
    refine ⟨hhead.frame.trans hothers.frame, ?_, hothers.standing, ?_, ?_, ?_, ?_, ?_, ?_, ?_,
      ?_⟩
    · rw [hothers.records_eq, hhead.records_eq]
      rfl
    · intro other hmem
      rcases List.mem_cons.mp hmem with rfl | hmem
      · exact ⟨hhead.shows.userId, hhead.shows.kind⟩
      · exact hothers.each other hmem
    · intro other hmem
      rcases List.mem_cons.mp hmem with rfl | hmem
      · exact hhead.source
      · exact hothers.source other hmem
    · rw [List.map_cons, hhead.shows.money, hothers.money]
    · intro other hmem
      rcases List.mem_cons.mp hmem with rfl | hmem
      · exact hhead.fresh
      · have hfresh := hothers.fresh other hmem
        rwa [Table.find?_insert_of_ne _ (hnot other hmem)] at hfresh
    · refine List.nodup_cons.mpr ⟨fun hmem => ?_, hothers.distinct⟩
      obtain ⟨other, hother, heq⟩ := List.mem_map.mp hmem
      exact hnot other hother heq
    · intro hpromise
      refine List.pairwise_cons.mpr ⟨fun other hmem => ?_, hothers.ordered hpromise⟩
      exact olderFirst_of_posted (hkeeps.increasing hpromise) htoward hhead
        (hothers.createdAt other hmem) (hothers.drawn other hmem)
    · intro other hmem
      rcases List.mem_cons.mp hmem with rfl | hmem
      · exact ⟨_, le_rfl, hhead.issued.trans_le hsupply.issued_le, hhead.drawn⟩
      · obtain ⟨n, hle, hlt, hdrawn⟩ := hothers.drawn other hmem
        exact ⟨n, hfirst.issued_le.trans hle, hlt, hdrawn⟩
    · intro other hmem
      rcases List.mem_cons.mp hmem with rfl | hmem
      · obtain ⟨n, hle, hlt, hcreated⟩ := hhead.createdAt
        exact ⟨n, hle, hlt.trans_le hsupply.readings_le, hcreated⟩
      · obtain ⟨n, hle, hlt, hcreated⟩ := hothers.createdAt other hmem
        exact ⟨n, hfirst.readings_le.trans hle, hlt, hcreated⟩

/-- Legs posted under the name of a debt that had none mirror it. -/
theorem LegsPosted.mirrored {debt : Debt} {legs : List Money} {posted : List Record}
    (hposted : LegsPosted promise mandate debt legs first last records posted)
    (hnone : ∀ record ∈ records.rows, record.source ≠ .debt debt.id)
    (hreceived : debt.received = legs.map debt.kind.signedMoney) :
    debt.Mirrored promise (posted.foldl Table.insert records) := by
  apply Debt.mirrored_foldl_insert hnone hposted.distinct hposted.source hposted.ordered
    hposted.each
  rw [hreceived, ← hposted.money, List.map_map]
  rfl

/-! ## Taking a debt back -/

theorem adjusted_of_unpostDebt {debt : Debt} {debtor after : Debtor} (hsigned : debt.Signed)
    (hperform : (unpostDebt debt debtor).perform first = .ok (after, last)) :
    debtor.Adjusted (-debt.debted.amount.toInt) after := by
  obtain ⟨recorded, _, hlist, hrest⟩ := perform_bind_eq_ok.mp hperform
  obtain ⟨⟨⟩, middle, hreverse, hrest⟩ := perform_bind_eq_ok.mp hrest
  obtain ⟨count, _, hdrop, hadjust⟩ := perform_bind_eq_ok.mp hrest
  rw [← hsigned.toInt_neg]
  exact (perform_adjustDebtor hadjust).1

theorem debtUnposted {debt : Debt} {debtor after : Debtor}
    (hstanding : Standing mandate first first.unit.working.records)
    (htoward : last.Toward mandate) (howns : mandate.OwnsDebt debt.id)
    (hperform : (unpostDebt debt debtor).perform first = .ok (after, last)) :
    LegsDropped mandate (Record.isOfDebt debt.id) first last := by
  obtain ⟨recorded, _, hlist, hrest⟩ := perform_bind_eq_ok.mp hperform
  obtain ⟨hrecorded, rfl⟩ := (perform_read_eq_ok rfl).mp hlist
  obtain ⟨⟨⟩, middle, hreverse, htail⟩ := perform_bind_eq_ok.mp hrest
  obtain ⟨count, _, hdrop, hadjust⟩ := perform_bind_eq_ok.mp htail
  obtain rfl := perform_deleteRecordsForDebt hdrop
  obtain ⟨-, rfl⟩ := perform_adjustDebtor hadjust
  have hdropped := legsDropped (hstanding.answered (.recordsForDebt debt.id) _ rfl howns)
    (htoward.of_perform htail) hrecorded hreverse (.deleteRecordsForDebt debt.id) howns
  exact { hdropped with
    frame := { hdropped.frame with }
    standing := hdropped.standing.clocked }

/-! ## The operations -/

theorem positive_of_checkDebt {amounts : DebtAmounts} {details : Option String}
    (hcheck : checkDebt limits amounts details = .ok ()) : 0 < amounts.debted.amount.toInt := by
  rw [← checkPositive_eq_ok_iff]
  simp only [checkDebt, checkLeg] at hcheck
  cases hpositive : checkPositive amounts.debted.amount with
  | error cause =>
    rw [hpositive] at hcheck
    cases hcheck
  | ok => rfl

theorem positive_of_checkNewDebt {request : NewDebt}
    (hcheck : (createDebt limits request).check = .ok ()) :
    0 < request.debted.amount.toInt := by
  simp only [createDebt] at hcheck
  cases hname : checkName request.debtorName with
  | error cause =>
    rw [hname] at hcheck
    cases hcheck
  | ok =>
    rw [hname] at hcheck
    exact positive_of_checkDebt hcheck

theorem signed_new {id : DebtId} {debtor : Debtor} {status : DebtStatus}
    {amounts : DebtAmounts} {details : Option String} {now : Timestamp}
    (hpositive : 0 < amounts.debted.amount.toInt) :
    (Debt.new id debtor status amounts details now).Signed :=
  ⟨amounts.debted.amount, hpositive, rfl⟩

theorem perform_newDebt {debtor : Debtor} {status : DebtStatus} {amounts : DebtAmounts}
    {details : Option String} {debt : Debt}
    (hperform : (newDebt debtor status amounts details).perform first = .ok (debt, last)) :
    (∃ now, debt = .new ⟨first.supply.uuid first.supply.issued⟩ debtor status amounts details
      now) ∧ last = first.clocked.drew := by
  obtain ⟨now, _, hnow, hrest⟩ := perform_bind_eq_ok.mp hperform
  obtain ⟨-, rfl⟩ := perform_now_eq_ok.mp hnow
  obtain ⟨id, _, hdraw, hpure⟩ := perform_bind_eq_ok.mp hrest
  obtain ⟨rfl, rfl⟩ := perform_newId_eq_ok.mp hdraw
  obtain ⟨rfl, rfl⟩ := perform_pure_eq_ok.mp hpure
  exact ⟨⟨now, rfl⟩, rfl⟩

/-- A change that made a debt and posted its legs. -/
theorem LegsPosted.settled (hopening : Opening promise snapshot last) {debt : Debt}
    {legs : List Money} {posted : List Record} {middle : Course}
    (hposted : LegsPosted promise ⟨snapshot, .debt debt.id, last⟩ debt legs first middle
      snapshot.records posted)
    (hunknown : snapshot.debts.find? debt.id = none)
    (hstanding : Standing ⟨snapshot, .debt debt.id, last⟩ last
      (posted.foldl Table.insert snapshot.records))
    (hrecords : last.unit.working.records = posted.foldl Table.insert snapshot.records)
    (hdebts : last.unit.working.debts = snapshot.debts.insert debt)
    (howed : Owed last.unit.working.debtors last.unit.working.debts)
    (hsigned : debt.Signed) (hreceived : debt.received = legs.map debt.kind.signedMoney) :
    Mandate.Settled promise ⟨snapshot, .debt debt.id, last⟩ := by
  rw [← hrecords] at hstanding
  apply Mandate.Settled.of_stored_debt rfl hstanding howed
  · intro old hold
    cases hunknown.symm.trans hold
  · change last.unit.working.debts.find? debt.id = some debt
    rw [hdebts]
    exact Table.find?_insert_self snapshot.debts debt
  · exact hsigned
  · change debt.Mirrored promise last.unit.working.records
    rw [hrecords]
    exact hposted.mirrored (hopening.consistent.source_ne_debt hunknown) hreceived

theorem settled_createDebt (hopening : Opening promise snapshot last) {request : NewDebt}
    {posting : DebtPosting} (hcheck : (createDebt limits request).check = .ok ())
    (hperform : (createDebt limits request).work.perform (.start snapshot supply) =
      .ok (posting, last)) :
    ∃ owner, Mandate.Settled promise ⟨snapshot, owner, last⟩ := by
  obtain ⟨user, _, hfind, hrest⟩ := perform_bind_eq_ok.mp hperform
  obtain ⟨-, rfl⟩ := perform_findUser_eq_ok.mp hfind
  obtain ⟨now, _, hnow, hrest⟩ := perform_bind_eq_ok.mp hrest
  obtain ⟨-, rfl⟩ := perform_now_eq_ok.mp hnow
  obtain ⟨id, _, hdraw, hopen⟩ := perform_bind_eq_ok.mp hrest
  obtain ⟨hid, rfl⟩ := perform_newId_eq_ok.mp hdraw
  obtain ⟨debtor, _, hadjust, hrest⟩ := perform_bind_eq_ok.mp hopen
  obtain ⟨hadjusted, rfl⟩ := perform_adjustDebtor hadjust
  obtain ⟨_, _, hcreate, hrest⟩ := perform_bind_eq_ok.mp hrest
  obtain ⟨unit, hanswer, rfl⟩ := perform_ask_eq_ok.mp hcreate
  cases hanswer
  obtain ⟨debt, _, hnew, hrest⟩ := perform_bind_eq_ok.mp hrest
  obtain ⟨⟨moment, hdebt⟩, rfl⟩ := perform_newDebt hnew
  obtain ⟨_, _, hcreate, hlegs⟩ := perform_bind_eq_ok.mp hrest
  obtain ⟨unit, hanswer, rfl⟩ := perform_ask_eq_ok.mp hcreate
  cases hanswer
  obtain ⟨posted, _, hpost, hpure⟩ := perform_bind_eq_ok.mp hlegs
  obtain ⟨-, rfl⟩ := perform_pure_eq_ok.mp hpure
  have hend := Course.Toward.end snapshot (.debt debt.id) last
  have hfresh := hopening.mandate_fresh (.debt debt.id)
  have hdrawn : debtor.id.uuid ∈ last.supply.drawn := by
    have hdrawn := Supply.Leads.draw_mem (hend.of_perform hopen).supply
    rw [hadjusted.id, Debtor.new, hid]
    exact hdrawn
  have hdrawn' : debt.id.uuid ∈ last.supply.drawn := by
    have hdrawn := Supply.Leads.draw_mem (hend.of_perform hlegs).supply
    rw [hdebt]
    exact hdrawn
  have hstart := hopening.standing (.debt debt.id) supply
  have hfound := (hstart.answered (.userById request.userId) _ rfl trivial).clocked.drew
  have hdebtor := hfound.clocked.answered (.createDebtor debtor)
    (MemoryUnit.writeDebtor ⟨snapshot, {}⟩ debtor .created) rfl hdrawn
  have hstanding := hdebtor.clocked.drew.answered (.createDebt debt)
    ((MemoryUnit.writeDebtor ⟨snapshot, {}⟩ debtor .created).writeDebt debt) rfl ⟨hdrawn', rfl⟩
  have hposted := legsPosted hopening.keeps hstanding hend rfl hpost
  have hrecords : last.unit.working.records = posted.foldl Table.insert snapshot.records :=
    hposted.records_eq
  have hdebtors : last.unit.working.debtors = snapshot.debtors.insert debtor :=
    hposted.frame.debtors
  have hdebts : last.unit.working.debts = snapshot.debts.insert debt := hposted.frame.debts
  have hunknown : snapshot.debts.find? debt.id = none := hfresh.debt hdrawn'
  have howed : Owed last.unit.working.debtors last.unit.working.debts := by
    rw [hdebtors, hdebts]
    apply hopening.consistent.owed.open_first (hfresh.debtor hdrawn) hunknown
    · rw [hdebt, Debt.new]
    · rw [hdebt, Debt.new]
    · rw [hdebt, Debt.new]
    · rw [hdebt, hadjusted.currency]
      rfl
    · rw [← Int64.toInt_inj, hadjusted.balance, hdebt]
      exact Int.zero_add _
  refine ⟨.debt debt.id, hposted.settled hopening hunknown hposted.standing hrecords hdebts
    howed ?_ ?_⟩
  · rw [hdebt]
    exact signed_new (positive_of_checkNewDebt hcheck)
  · rw [hdebt]
    rfl

theorem settled_settleDebt (hopening : Opening promise snapshot last) {request : DebtInstallment}
    {posting : DebtPosting} (hcheck : (settleDebt limits request).check = .ok ())
    (hperform : (settleDebt limits request).work.perform (.start snapshot supply) =
      .ok (posting, last)) :
    ∃ owner, Mandate.Settled promise ⟨snapshot, owner, last⟩ := by
  obtain ⟨debtor, _, hfind, hrest⟩ := perform_bind_eq_ok.mp hperform
  obtain ⟨hfound, rfl⟩ := perform_findDebtor hfind
  obtain ⟨⟨⟩, _, hmatch, hrest⟩ := perform_bind_eq_ok.mp hrest
  obtain ⟨hcurrency, rfl⟩ := perform_check_eq_ok.mp hmatch
  obtain ⟨debt, _, hnew, hrest⟩ := perform_bind_eq_ok.mp hrest
  obtain ⟨⟨moment, hdebt⟩, rfl⟩ := perform_newDebt hnew
  obtain ⟨_, _, hcreate, hlegs⟩ := perform_bind_eq_ok.mp hrest
  obtain ⟨unit, hanswer, rfl⟩ := perform_ask_eq_ok.mp hcreate
  cases hanswer
  obtain ⟨posted, middle, hpost, htail⟩ := perform_bind_eq_ok.mp hlegs
  obtain ⟨moved, _, hadjust, hrest⟩ := perform_bind_eq_ok.mp htail
  obtain ⟨hmoved, rfl⟩ := perform_adjustDebtor hadjust
  obtain ⟨stored, _, hupdate, hpure⟩ := perform_bind_eq_ok.mp hrest
  obtain ⟨-, rfl⟩ := perform_pure_eq_ok.mp hpure
  obtain ⟨hmem, hid⟩ := Table.find?_eq_some_iff.mp hfound
  change debtor.id = request.debtorId at hid
  rw [← hid] at hfound
  have hend := Course.Toward.end snapshot (.debt debt.id) last
  have hdrawn : debt.id.uuid ∈ last.supply.drawn := by
    have hdrawn := Supply.Leads.draw_mem (hend.of_perform hlegs).supply
    rw [hdebt]
    exact hdrawn
  have hheld := holdsDebtor hend hfound hmoved hupdate
  have hstart := hopening.standing (.debt debt.id) supply
  have hknown := hstart.answered (.debtorById request.debtorId) _ rfl (hid ▸ hheld)
  have hstanding := hknown.clocked.drew.answered (.createDebt debt)
    (MemoryUnit.writeDebt ⟨snapshot, {}⟩ debt) rfl ⟨hdrawn, rfl⟩
  have hposted := legsPosted hopening.keeps hstanding (hend.of_perform htail) rfl hpost
  have hstored := debtorStored hposted.standing.clocked hheld hmoved hupdate
  have hrecords : last.unit.working.records = posted.foldl Table.insert snapshot.records :=
    hstored.records_eq.trans hposted.records_eq
  have hdebtors : last.unit.working.debtors = snapshot.debtors.insert stored := by
    rw [hstored.debtors, Course.clocked_unit, hposted.frame.debtors]
    rfl
  have hdebts : last.unit.working.debts = snapshot.debts.insert debt :=
    hstored.debts.trans hposted.frame.debts
  have hunknown : snapshot.debts.find? debt.id = none :=
    (hopening.mandate_fresh (.debt debt.id)).debt hdrawn
  have howed : Owed last.unit.working.debtors last.unit.working.debts := by
    rw [hdebtors, hdebts]
    apply hopening.consistent.owed.add hmem hstored.adjusted hunknown
    · rw [hdebt, Debt.new]
    · rw [hdebt, Debt.new]
    · rw [hdebt, Debt.new]
    · rw [hdebt, currency_of_checkCurrency hcurrency]
      rfl
  refine ⟨.debt debt.id, hposted.settled hopening hunknown hstored.standing hrecords hdebts
    howed ?_ ?_⟩
  · rw [hdebt]
    exact signed_new (positive_of_checkDebt hcheck)
  · rw [hdebt]
    rfl

theorem settled_updateDebt (hopening : Opening promise snapshot last) {id : DebtId}
    {amounts : DebtAmounts} {posting : DebtPosting}
    (hcheck : (updateDebt limits id amounts).check = .ok ())
    (hperform : (updateDebt limits id amounts).work.perform (.start snapshot supply) =
      .ok (posting, last)) :
    ∃ owner, Mandate.Settled promise ⟨snapshot, owner, last⟩ := by
  obtain ⟨debt, _, hfind, hrest⟩ := perform_bind_eq_ok.mp hperform
  obtain ⟨hfound, rfl⟩ := perform_findDebt hfind
  obtain ⟨debtor, _, hfind, hrest⟩ := perform_bind_eq_ok.mp hrest
  obtain ⟨hdebtor, rfl⟩ := perform_findDebtor hfind
  obtain ⟨⟨⟩, _, hmatch, hrest⟩ := perform_bind_eq_ok.mp hrest
  obtain ⟨hcurrency, rfl⟩ := perform_check_eq_ok.mp hmatch
  obtain ⟨relieved, middle, hunpost, htail⟩ := perform_bind_eq_ok.mp hrest
  obtain ⟨now, _, hnow, hrest⟩ := perform_bind_eq_ok.mp htail
  obtain ⟨-, rfl⟩ := perform_now_eq_ok.mp hnow
  obtain ⟨posted, next, hpost, hsettle⟩ := perform_bind_eq_ok.mp hrest
  obtain ⟨moved, _, hadjust, hrest⟩ := perform_bind_eq_ok.mp hsettle
  obtain ⟨hmoved, rfl⟩ := perform_adjustDebtor hadjust
  obtain ⟨stored, settled, hupdate, hrest⟩ := perform_bind_eq_ok.mp hrest
  obtain ⟨⟨⟩, _, hwrite, hpure⟩ := perform_bind_eq_ok.mp hrest
  obtain ⟨-, rfl⟩ := perform_pure_eq_ok.mp hpure
  obtain ⟨unit, hanswer, hlast⟩ := perform_ask_eq_ok.mp hwrite
  obtain ⟨-, rfl⟩ := MemoryUnit.changing_eq_ok.mp hanswer
  obtain ⟨hmem, hid⟩ := Table.find?_eq_some_iff.mp hfound
  change debt.id = id at hid
  subst hid
  obtain ⟨hmem', hid⟩ := Table.find?_eq_some_iff.mp hdebtor
  change debtor.id = debt.debtorId at hid
  rw [← hid] at hdebtor
  change snapshot.debtors.find? debtor.id = some debtor at hdebtor
  obtain ⟨hsigned, -⟩ := hopening.consistent.debts debt hmem
  have hend := Course.Toward.end snapshot (.debt debt.id) last
  have howns : Mandate.OwnsDebt ⟨snapshot, .debt debt.id, last⟩ debt.id := ⟨rfl, debt, hfound⟩
  have hchange := (adjusted_of_unpostDebt hsigned hunpost).trans hmoved
  have hheld := holdsDebtor (hend.of_perform hwrite) hdebtor hchange hupdate
  have hstart := hopening.standing (.debt debt.id) supply
  have hknown := (hstart.answered (.debtById debt.id) _ rfl howns).answered
    (.debtorById debt.debtorId) ⟨snapshot, {}⟩ rfl (hid ▸ hheld)
  have hunposted := debtUnposted hknown (hend.of_perform htail) howns hunpost
  have howner : .debt (debt.reset amounts now).id = RecordSource.debt debt.id := rfl
  have hposted := legsPosted hopening.keeps hunposted.standing.clocked
    (hend.of_perform hsettle) howner hpost
  have hstored := debtorStored hposted.standing.clocked hheld hchange hupdate
  have hfinal := hstored.standing.answered (.updateDebt (debt.reset amounts now))
    (settled.unit.writeDebt (debt.reset amounts now)) rfl howns
  have hrecords : last.unit.working.records =
      posted.foldl Table.insert middle.unit.working.records := by
    rw [hlast]
    exact hstored.records_eq.trans hposted.records_eq
  have hdebtors : last.unit.working.debtors = snapshot.debtors.insert stored := by
    calc
      last.unit.working.debtors = next.unit.working.debtors.insert stored := by
        rw [hlast]
        exact hstored.debtors
      _ = middle.unit.working.debtors.insert stored := by
        rw [hposted.frame.debtors, Course.clocked_unit]
      _ = snapshot.debtors.insert stored := by
        rw [hunposted.frame.debtors]
        rfl
  have hdebts : last.unit.working.debts = snapshot.debts.insert (debt.reset amounts now) := by
    calc
      last.unit.working.debts = next.unit.working.debts.insert (debt.reset amounts now) := by
        rw [hlast]
        exact congrArg (Table.insert · (debt.reset amounts now)) hstored.debts
      _ = middle.unit.working.debts.insert (debt.reset amounts now) := by
        rw [hposted.frame.debts, Course.clocked_unit]
      _ = snapshot.debts.insert (debt.reset amounts now) := by
        rw [hunposted.frame.debts]
        rfl
  have howed : Owed last.unit.working.debtors last.unit.working.debts := by
    rw [hdebtors, hdebts]
    obtain ⟨found, hfind, huser, hcompany, -⟩ := hopening.consistent.owed.debtor debt hmem
    rw [← hid, hdebtor] at hfind
    obtain rfl := Option.some.inj hfind
    exact hopening.consistent.owed.replace hmem' hmem hstored.adjusted rfl hid.symm hid.symm
      huser hcompany (currency_of_checkCurrency hcurrency)
  rw [← hlast, ← hrecords] at hfinal
  refine ⟨.debt debt.id, .of_stored_debt howner.symm hfinal howed ?_ ?_ ?_ ?_⟩
  · intro old hold
    obtain rfl := Option.some.inj (hfound.symm.trans hold)
    exact hid ▸ hheld.2
  · change last.unit.working.debts.find? debt.id = some (debt.reset amounts now)
    rw [hdebts]
    exact Table.find?_insert_self snapshot.debts (debt.reset amounts now)
  · exact ⟨amounts.debted.amount, positive_of_checkDebt hcheck, rfl⟩
  · change Debt.Mirrored promise _ last.unit.working.records
    rw [hrecords]
    exact hposted.mirrored hunposted.source_ne_debt rfl

theorem settled_deleteDebt (hopening : Opening promise snapshot last) {id : DebtId}
    {answer : Debtor}
    (hperform : (deleteDebt id).work.perform (.start snapshot supply) =
      .ok (answer, last)) :
    ∃ owner, Mandate.Settled promise ⟨snapshot, owner, last⟩ := by
  obtain ⟨debt, _, hfind, hrest⟩ := perform_bind_eq_ok.mp hperform
  obtain ⟨hfound, rfl⟩ := perform_findDebt hfind
  obtain ⟨debtor, _, hfind, hrest⟩ := perform_bind_eq_ok.mp hrest
  obtain ⟨hdebtor, rfl⟩ := perform_findDebtor hfind
  obtain ⟨relieved, middle, hunpost, htail⟩ := perform_bind_eq_ok.mp hrest
  obtain ⟨stored, relieving, hupdate, hrest⟩ := perform_bind_eq_ok.mp htail
  obtain ⟨⟨⟩, _, hdelete, hpure⟩ := perform_bind_eq_ok.mp hrest
  obtain ⟨-, rfl⟩ := perform_pure_eq_ok.mp hpure
  obtain ⟨unit, hanswer, hlast⟩ := perform_ask_eq_ok.mp hdelete
  obtain ⟨-, rfl⟩ := MemoryUnit.changing_eq_ok.mp hanswer
  obtain ⟨hmem, hid⟩ := Table.find?_eq_some_iff.mp hfound
  change debt.id = id at hid
  subst hid
  obtain ⟨hmem', hid⟩ := Table.find?_eq_some_iff.mp hdebtor
  change debtor.id = debt.debtorId at hid
  rw [← hid] at hdebtor
  change snapshot.debtors.find? debtor.id = some debtor at hdebtor
  obtain ⟨hsigned, -⟩ := hopening.consistent.debts debt hmem
  have hend := Course.Toward.end snapshot (.debt debt.id) last
  have howns : Mandate.OwnsDebt ⟨snapshot, .debt debt.id, last⟩ debt.id := ⟨rfl, debt, hfound⟩
  have hchange := adjusted_of_unpostDebt hsigned hunpost
  have hheld := holdsDebtor (hend.of_perform hdelete) hdebtor hchange hupdate
  have hstart := hopening.standing (.debt debt.id) supply
  have hknown := (hstart.answered (.debtById debt.id) _ rfl howns).answered
    (.debtorById debt.debtorId) ⟨snapshot, {}⟩ rfl (hid ▸ hheld)
  have hunposted := debtUnposted hknown (hend.of_perform htail) howns hunpost
  have hstored := debtorStored hunposted.standing hheld hchange hupdate
  have hfinal := hstored.standing.answered (.deleteDebt debt.id)
    (relieving.unit.dropDebt debt.id) rfl howns
  have hrecords : last.unit.working.records = middle.unit.working.records := by
    rw [hlast]
    exact hstored.records_eq
  have hdebtors : last.unit.working.debtors = snapshot.debtors.insert stored := by
    calc
      last.unit.working.debtors = middle.unit.working.debtors.insert stored := by
        rw [hlast]
        exact hstored.debtors
      _ = snapshot.debtors.insert stored := by
        rw [hunposted.frame.debtors]
        rfl
  have hdebts : last.unit.working.debts = snapshot.debts.erase debt.id := by
    calc
      last.unit.working.debts = middle.unit.working.debts.erase debt.id := by
        rw [hlast]
        exact congrArg (Table.erase · debt.id) hstored.debts
      _ = snapshot.debts.erase debt.id := by
        rw [hunposted.frame.debts]
        rfl
  have howed : Owed last.unit.working.debtors last.unit.working.debts := by
    rw [hdebtors, hdebts]
    exact hopening.consistent.owed.remove hmem' hmem hstored.adjusted hid.symm
  rw [← hlast, ← hrecords] at hfinal
  refine ⟨.debt debt.id, .of_debt rfl hfinal howed ?_ ?_ ?_⟩
  · intro old hold
    obtain rfl := Option.some.inj (hfound.symm.trans hold)
    exact hid ▸ hheld.2
  · intro found hfind
    change last.unit.working.debts.find? debt.id = some found at hfind
    rw [hdebts, Table.find?_erase, if_pos rfl] at hfind
    cases hfind
  · intro record hrecord hsource
    change record ∈ last.unit.working.records.rows at hrecord
    rw [hrecords] at hrecord
    exact absurd hsource (hunposted.source_ne_debt record hrecord)

end CashLedger.Engine
