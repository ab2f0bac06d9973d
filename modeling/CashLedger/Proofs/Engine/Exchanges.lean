import CashLedger.Proofs.Engine.Outcome

/-!
# Exchanges keep their records

An exchange is made with its two records, changed together with them, and deleted
together with them.  Changing it posts new legs on the records that it has, so
that it keeps just these two.
-/

namespace CashLedger.Engine

open Work Posting

variable {promise : Promise} {limits : Limits} {snapshot : Tables} {supply : Supply}
  {mandate : Mandate} {first last : Course} {records : Table Record}

theorem settled_createExchange (hopening : Opening promise snapshot last) {request : NewExchange}
    {exchange : Exchange}
    (hperform : (createExchange limits request).work.perform (.start snapshot supply) =
      .ok (exchange, last)) :
    ∃ owner, Mandate.Settled promise ⟨snapshot, owner, last⟩ := by
  obtain ⟨user, _, hfind, hrest⟩ := perform_bind_eq_ok.mp hperform
  obtain ⟨-, rfl⟩ := perform_findUser_eq_ok.mp hfind
  obtain ⟨now, _, hnow, hrest⟩ := perform_bind_eq_ok.mp hrest
  obtain ⟨-, rfl⟩ := perform_now_eq_ok.mp hnow
  obtain ⟨id, _, hdraw, hrest⟩ := perform_bind_eq_ok.mp hrest
  obtain ⟨hid, rfl⟩ := perform_newId_eq_ok.mp hdraw
  obtain ⟨_, _, hcreate, hposts⟩ := perform_bind_eq_ok.mp hrest
  obtain ⟨unit, hanswer, rfl⟩ := perform_ask_eq_ok.mp hcreate
  cases hanswer
  obtain ⟨sold, middle, hsell, hrest⟩ := perform_bind_eq_ok.mp hposts
  obtain ⟨received, _, hbuy, hpure⟩ := perform_bind_eq_ok.mp hrest
  obtain ⟨-, rfl⟩ := perform_pure_eq_ok.mp hpure
  have hend := Course.Toward.end snapshot (.exchange id) last
  have hdrawn : id.uuid ∈ last.supply.drawn := by
    have hdrawn := Supply.Leads.draw_mem (hend.of_perform hposts).supply
    rw [hid]
    exact hdrawn
  have hnew : snapshot.exchanges.find? id = none :=
    (hopening.mandate_fresh (.exchange id)).exchange hdrawn
  have hstart := hopening.standing (.exchange id) supply
  have hfound := (hstart.answered (.userById request.userId) _ rfl trivial).clocked.drew
  have hstanding := hfound.answered (.createExchange (.new id user request now))
    (MemoryUnit.writeExchange ⟨snapshot, {}⟩ (.new id user request now)) rfl ⟨hdrawn, rfl⟩
  have hsold := legPosted hopening.keeps.distinct hstanding (hend.of_perform hbuy) rfl hsell
  have hreceived := legPosted hopening.keeps.distinct hsold.standing hend rfl hbuy
  have hframe := hsold.frame.trans hreceived.frame
  have hstored : last.unit.working.exchanges.find? id = some (.new id user request now) := by
    rw [hframe.exchanges]
    exact Table.find?_insert_self snapshot.exchanges (.new id user request now)
  have hrecords : last.unit.working.records =
      (snapshot.records.insert sold).insert received :=
    hreceived.records_eq.trans (congrArg (Table.insert · received) hsold.records_eq)
  have hids : sold.id ≠ received.id := by
    intro heq
    have hfresh := hreceived.fresh
    have hthere : (snapshot.records.insert sold).find? sold.id = some sold :=
      Table.find?_insert_self snapshot.records sold
    rw [← heq, hthere] at hfresh
    cases hfresh
  have howner : RecordSource.exchange id = .exchange (Exchange.new id user request now).id := rfl
  have hfinal := hreceived.standing
  rw [← hrecords] at hfinal
  refine ⟨.exchange id, .of_stored_exchange howner hfinal (hframe.owed hopening.consistent.owed)
    ?_ hstored ?_⟩
  · intro old hold
    cases hnew.symm.trans hold
  · change Exchange.Mirrored _ last.unit.working.records
    rw [hrecords]
    exact Exchange.mirrored_insert (hopening.consistent.source_ne_exchange hnew) hids
      hsold.source hreceived.source hsold.shows hreceived.shows

theorem perform_findExchange {id : ExchangeId} {exchange : Exchange}
    (hperform : (findExchange id).perform first = .ok (exchange, last)) :
    first.unit.working.exchanges.find? id = some exchange ∧
      last = first.answered (.exchangeById id) first.unit := by
  obtain ⟨found, _, hask, hrequire⟩ := perform_bind_eq_ok.mp hperform
  obtain ⟨rfl, rfl⟩ := (perform_read_eq_ok rfl).mp hask
  exact perform_require_eq_ok.mp hrequire

/-- What comes of records on which other legs were posted one after the other. -/
structure LegsReposted (mandate : Mandate) (user : UserId) (amounts : ExchangeAmounts)
    (old : List Record) (first last : Course) (records : Table Record)
    (posted : List Record) : Prop where
  frame : first.Frame last
  records_eq : last.unit.working.records =
    posted.foldl Table.insert first.unit.working.records
  standing : Standing mandate last (posted.foldl Table.insert records)
  each : List.Forall₂ (Record.Reposted user amounts) old posted
  held : ∀ record ∈ old, record.balanceId ∈ last.unit.writes.balanceIds

theorem legsReposted {user : UserId} {amounts : ExchangeAmounts} {old : List Record}
    (hdistinct : (old.map Record.id).Nodup) (hstanding : Standing mandate first records)
    (htoward : last.Toward mandate)
    (hrecords : ∀ record ∈ old, record ∈ records.rows)
    (hstored : ∀ record ∈ old, record.userId = user ∧ record.source = mandate.owner ∧
      mandate.snapshot.records.find? record.id = some record)
    (hperform : (repostRecords user amounts old).perform first = .ok ((), last)) :
    ∃ posted, LegsReposted mandate user amounts old first last records posted := by
  induction old generalizing first records with
  | nil =>
    obtain ⟨-, rfl⟩ := perform_pure_eq_ok.mp hperform
    exact ⟨[], .refl _, rfl, hstanding, .nil, nofun⟩
  | cons record rest ih =>
    obtain ⟨hother, hdistinct⟩ := List.nodup_cons.mp hdistinct
    obtain ⟨reversed, middle, hreverse, hrest⟩ := perform_bind_eq_ok.mp hperform
    obtain ⟨balance, applied, happly, hrest⟩ := perform_bind_eq_ok.mp hrest
    obtain ⟨now, _, hnow, hrest⟩ := perform_bind_eq_ok.mp hrest
    obtain ⟨-, rfl⟩ := perform_now_eq_ok.mp hnow
    obtain ⟨⟨⟩, next, hupdate, htail⟩ := perform_bind_eq_ok.mp hrest
    obtain ⟨huser, hsource, hfind⟩ := hstored record (by simp)
    have hhead := legReposted hstanding (hrecords record (by simp)) huser hfind hsource
      hreverse happly hupdate (htoward.of_perform htail)
    have hremaining : ∀ row ∈ rest, row ∈ (records.insert (record.repost balance
        ⟨record.kind.direction, (amounts.moneyFor record.kind).amount⟩ now)).rows := by
      intro row hrow
      refine Table.mem_rows_insert.mpr (.inr ⟨hrecords row (by simp [hrow]), fun heq => ?_⟩)
      exact hother (List.mem_map.mpr ⟨row, hrow, heq⟩)
    obtain ⟨posted, hposted⟩ := ih hdistinct hhead.standing hremaining
      (fun row hrow => hstored row (by simp [hrow])) htail
    refine ⟨_ :: posted, hhead.frame.trans hposted.frame, ?_, hposted.standing,
      .cons ⟨hhead.id, hhead.source, hhead.shows⟩ hposted.each, ?_⟩
    · rw [hposted.records_eq, hhead.records_eq]
      rfl
    · intro row hrow
      rcases List.mem_cons.mp hrow with rfl | hrow
      · exact (MemoryUnit.writes_grow_of_perform htail).balances hhead.held
      · exact hposted.held row hrow

theorem settled_updateExchange (hopening : Opening promise snapshot last) {id : ExchangeId}
    {amounts : ExchangeAmounts} {changed : Exchange}
    (hperform : (updateExchange id amounts).work.perform (.start snapshot supply) =
      .ok (changed, last)) :
    ∃ owner, Mandate.Settled promise ⟨snapshot, owner, last⟩ := by
  obtain ⟨exchange, _, hfind, hrest⟩ := perform_bind_eq_ok.mp hperform
  obtain ⟨hfound, rfl⟩ := perform_findExchange hfind
  obtain ⟨recorded, _, hlist, hrest⟩ := perform_bind_eq_ok.mp hrest
  obtain ⟨hrecorded, rfl⟩ := (perform_read_eq_ok rfl).mp hlist
  obtain ⟨⟨⟩, middle, hrepost, htail⟩ := perform_bind_eq_ok.mp hrest
  obtain ⟨now, _, hnow, hrest⟩ := perform_bind_eq_ok.mp htail
  obtain ⟨-, rfl⟩ := perform_now_eq_ok.mp hnow
  obtain ⟨⟨⟩, _, hupdate, hpure⟩ := perform_bind_eq_ok.mp hrest
  obtain ⟨-, rfl⟩ := perform_pure_eq_ok.mp hpure
  obtain ⟨unit, hanswer, hlast⟩ := perform_ask_eq_ok.mp hupdate
  obtain ⟨-, rfl⟩ := MemoryUnit.changing_eq_ok.mp hanswer
  rw [Course.clocked_unit] at hlast
  obtain ⟨hmem, hid⟩ := Table.find?_eq_some_iff.mp hfound
  change exchange.id = id at hid
  subst hid
  have hend := Course.Toward.end snapshot (.exchange exchange.id) last
  have howns : Mandate.OwnsExchange ⟨snapshot, .exchange exchange.id, last⟩ exchange.id :=
    ⟨rfl, exchange, hfound⟩
  have hstart := hopening.standing (.exchange exchange.id) supply
  have hstanding := (hstart.answered (.exchangeById exchange.id) _ rfl howns).answered
    (.recordsForExchange exchange.id) ⟨snapshot, {}⟩ rfl howns
  -- The records that were listed are those of the exchange, and all of them.
  have hperm : recorded.Perm
      (snapshot.records.rows.filter (Record.isOfExchange exchange.id)) := by
    rw [← hrecorded]
    exact Tables.recordsWhere_perm snapshot _
  have hlisted : ∀ record ∈ recorded, record ∈ snapshot.records.rows ∧
      record.source = .exchange exchange.id := by
    intro record hrecord
    rw [hperm.mem_iff, List.mem_filter, Record.isOfExchange_iff] at hrecord
    exact hrecord
  have hmirrored := hopening.consistent.exchanges exchange hmem
  obtain ⟨posted, hposted⟩ := legsReposted
    ((hperm.map Record.id).nodup_iff.mpr (snapshot.records.nodup_filter _)) hstanding
    (hend.of_perform htail) (fun record hrecord => (hlisted record hrecord).1)
    (fun record hrecord => ⟨hmirrored.userId_eq (hlisted record hrecord).1
      (hlisted record hrecord).2, (hlisted record hrecord).2,
      Table.mem_rows_iff.mp (hlisted record hrecord).1⟩) hrepost
  have hfinal := hposted.standing.clocked.answered
    (.updateExchange (exchange.amend amounts now))
    (middle.unit.writeExchange (exchange.amend amounts now)) rfl howns
  have hrecords : last.unit.working.records =
      posted.foldl Table.insert snapshot.records := by
    rw [hlast]
    exact hposted.records_eq
  have hstored : last.unit.working.exchanges.find? exchange.id =
      some (exchange.amend amounts now) := by
    rw [hlast]
    exact Table.find?_insert_self middle.unit.working.exchanges (exchange.amend amounts now)
  have howed : Owed last.unit.working.debtors last.unit.working.debts := by
    rw [hlast]
    exact hposted.frame.owed hopening.consistent.owed
  have howner : RecordSource.exchange exchange.id = .exchange (exchange.amend amounts now).id :=
    rfl
  rw [← hlast, ← hrecords] at hfinal
  refine ⟨.exchange exchange.id, .of_stored_exchange howner hfinal howed ?_ hstored ?_⟩
  · intro _ _ record hrecord hsource
    apply (hend.of_perform htail).writes.balances (hposted.held record ?_)
    rw [hperm.mem_iff, List.mem_filter, Record.isOfExchange_iff]
    exact ⟨hrecord, hsource⟩
  · change Exchange.Mirrored _ last.unit.working.records
    rw [hrecords]
    exact hmirrored.replace hperm rfl hposted.each

theorem settled_deleteExchange (hopening : Opening promise snapshot last) {id : ExchangeId}
    {deleted : Exchange}
    (hperform : (deleteExchange id).work.perform (.start snapshot supply) =
      .ok (deleted, last)) :
    ∃ owner, Mandate.Settled promise ⟨snapshot, owner, last⟩ := by
  obtain ⟨exchange, _, hfind, hrest⟩ := perform_bind_eq_ok.mp hperform
  obtain ⟨hfound, rfl⟩ := perform_findExchange hfind
  obtain ⟨recorded, _, hlist, hrest⟩ := perform_bind_eq_ok.mp hrest
  obtain ⟨hrecorded, rfl⟩ := (perform_read_eq_ok rfl).mp hlist
  obtain ⟨⟨⟩, middle, hreverse, hrest⟩ := perform_bind_eq_ok.mp hrest
  obtain ⟨count, _, hdrop, htail⟩ := perform_bind_eq_ok.mp hrest
  obtain rfl := perform_deleteRecordsForExchange hdrop
  obtain ⟨⟨⟩, _, hdelete, hpure⟩ := perform_bind_eq_ok.mp htail
  obtain ⟨-, rfl⟩ := perform_pure_eq_ok.mp hpure
  obtain ⟨unit, hanswer, hlast⟩ := perform_ask_eq_ok.mp hdelete
  obtain ⟨-, rfl⟩ := MemoryUnit.changing_eq_ok.mp hanswer
  have htoward := (Course.Toward.end snapshot (.exchange id) last).of_perform htail
  have howns : Mandate.OwnsExchange ⟨snapshot, .exchange id, last⟩ id :=
    ⟨rfl, exchange, hfound⟩
  have hstart := hopening.standing (.exchange id) supply
  have hstanding := (hstart.answered (.exchangeById id) _ rfl howns).answered
    (.recordsForExchange id) ⟨snapshot, {}⟩ rfl howns
  have hdropped := legsDropped hstanding (htoward.of_perform hdrop) hrecorded hreverse
    (.deleteRecordsForExchange id) howns
  have hfinal := hdropped.standing.answered (.deleteExchange id)
    ((dropWhere middle.unit (Record.isOfExchange id)).dropExchange id) rfl howns
  have hrecords : last.unit.working.records =
      (dropWhere middle.unit (Record.isOfExchange id)).working.records := by
    rw [hlast]
    rfl
  have hgone : last.unit.working.exchanges.find? id = none := by
    rw [hlast]
    exact (Table.find?_erase _ id id).trans (if_pos rfl)
  have howed : Owed last.unit.working.debtors last.unit.working.debts := by
    rw [hlast]
    exact hdropped.frame.owed hopening.consistent.owed
  rw [Course.answered_unit] at hfinal hlast
  rw [← hlast, ← hrecords] at hfinal
  refine ⟨.exchange id, .of_exchange rfl hfinal howed ?_ ?_ ?_⟩
  · intro _ _ record hrecord hsource
    apply htoward.writes.balances
    exact hdropped.held record hrecord (Record.isOfExchange_iff.mpr hsource)
  · intro exchange hfind
    change last.unit.working.exchanges.find? id = some exchange at hfind
    rw [hgone] at hfind
    cases hfind
  · intro record hmem hsource
    change record ∈ last.unit.working.records.rows at hmem
    rw [hrecords] at hmem
    exact absurd hsource (hdropped.source_ne_exchange record hmem)

end CashLedger.Engine
