import CashLedger.Proofs.Engine.Outcome

/-!
# Manual postings

Legs that are posted by themselves leave a free record each, and a free record is
changed or rolled back together with its leg.
-/

namespace CashLedger.Engine

open Work Posting

variable {promise : Promise} {limits : Limits} {snapshot : Tables} {supply : Supply}
  {last : Course}

theorem settled_postBalanceRecord (hopening : Opening promise snapshot last) {user : UserId}
    {kind : RecordKind} {money : Money} {details : Option String} {record : Record}
    (hperform : (postBalanceRecord limits user kind money details).work.perform
      (.start snapshot supply) = .ok (record, last)) :
    ∃ owner, Mandate.Settled promise ⟨snapshot, owner, last⟩ := by
  obtain ⟨owner, _, hfind, hpost⟩ := perform_bind_eq_ok.mp hperform
  obtain ⟨-, rfl⟩ := perform_findUser_eq_ok.mp hfind
  have hstart := hopening.standing .manual supply
  have hstanding := hstart.answered (.userById user) _ rfl trivial
  have hposted := legPosted hopening.keeps.distinct hstanding (.end _ _ _) rfl hpost
  have hrecords : last.unit.working.records = snapshot.records.insert record :=
    hposted.records_eq
  refine ⟨.manual, .of_free rfl hposted.standing.calls ?_
    (hposted.frame.owed hopening.consistent.owed)⟩
  have hbalanced := hposted.standing.balanced
  rwa [← hrecords] at hbalanced

theorem settled_performBalanceRecord (hopening : Opening promise snapshot last)
    {request : ManualExchange} {records : List Record}
    (hperform : (performBalanceRecord limits request).work.perform (.start snapshot supply) =
      .ok (records, last)) :
    ∃ owner, Mandate.Settled promise ⟨snapshot, owner, last⟩ := by
  obtain ⟨owner, _, hfind, hrest⟩ := perform_bind_eq_ok.mp hperform
  obtain ⟨-, rfl⟩ := perform_findUser_eq_ok.mp hfind
  obtain ⟨transaction, _, hdraw, hrest⟩ := perform_bind_eq_ok.mp hrest
  obtain ⟨-, rfl⟩ := perform_newId_eq_ok.mp hdraw
  obtain ⟨sold, middle, hsell, hrest⟩ := perform_bind_eq_ok.mp hrest
  obtain ⟨received, _, hbuy, hpure⟩ := perform_bind_eq_ok.mp hrest
  obtain ⟨-, rfl⟩ := perform_pure_eq_ok.mp hpure
  have hstart := hopening.standing (.transaction transaction) supply
  have hstanding := (hstart.answered (.userById request.userId) _ rfl trivial).drew
  have htoward := (Course.Toward.end snapshot (.transaction transaction) _).of_perform hbuy
  have hsold := legPosted hopening.keeps.distinct hstanding htoward rfl hsell
  have hreceived := legPosted hopening.keeps.distinct hsold.standing (.end _ _ _) rfl hbuy
  have hframe := hsold.frame.trans hreceived.frame
  have hrecords : last.unit.working.records =
      (snapshot.records.insert sold).insert received :=
    hreceived.records_eq.trans (congrArg (Table.insert · received) hsold.records_eq)
  refine ⟨.transaction transaction, .of_free rfl hreceived.standing.calls ?_
    (hframe.owed hopening.consistent.owed)⟩
  have hbalanced := hreceived.standing.balanced
  rwa [← hrecords] at hbalanced

theorem perform_findFreeRecord {id : RecordId} {record : Record} {first : Course}
    (hperform : (findFreeRecord id).perform first = .ok (record, last)) :
    first.unit.working.records.find? id = some record ∧ record.source.isOwned = false ∧
      last = first.answered (.recordById id) first.unit := by
  obtain ⟨found, _, hask, hrest⟩ := perform_bind_eq_ok.mp hperform
  obtain ⟨rfl, rfl⟩ := (perform_read_eq_ok rfl).mp hask
  obtain ⟨stored, _, hrequire, hrest⟩ := perform_bind_eq_ok.mp hrest
  obtain ⟨hfound, rfl⟩ := perform_require_eq_ok.mp hrequire
  split at hrest
  · cases hrest
  · next hfree =>
    obtain ⟨rfl, rfl⟩ := perform_pure_eq_ok.mp hrest
    exact ⟨hfound, Bool.eq_false_iff.mpr hfree, rfl⟩

theorem settled_rollbackRecord (hopening : Opening promise snapshot last) {id : RecordId}
    {balance : Balance}
    (hperform : (rollbackRecord id).work.perform (.start snapshot supply) =
      .ok (balance, last)) :
    ∃ owner, Mandate.Settled promise ⟨snapshot, owner, last⟩ := by
  obtain ⟨record, _, hfind, hrest⟩ := perform_bind_eq_ok.mp hperform
  obtain ⟨hstored, hfree, rfl⟩ := perform_findFreeRecord hfind
  obtain ⟨reversed, middle, hreverse, hrest⟩ := perform_bind_eq_ok.mp hrest
  obtain ⟨_, _, hdelete, hpure⟩ := perform_bind_eq_ok.mp hrest
  obtain ⟨-, hlast⟩ := perform_pure_eq_ok.mp hpure
  obtain ⟨unit, hanswer, rfl⟩ := perform_ask_eq_ok.mp hdelete
  obtain ⟨-, rfl⟩ := MemoryUnit.changing_eq_ok.mp hanswer
  obtain ⟨hmem, hid⟩ := Table.find?_eq_some_iff.mp hstored
  change record.id = id at hid
  subst hid
  have htoward : middle.Toward ⟨snapshot, record.source, last⟩ :=
    hlast ▸ (Course.Toward.end _ _ _).of_perform hdelete
  -- The record is the change's own, for its balance has been written.
  have howns : Mandate.OwnsRecord ⟨snapshot, record.source, last⟩ record.id :=
    ⟨record, hstored, rfl, fun _ => htoward.writes.balances (held_of_reverseRecord hreverse)⟩
  have hstart := hopening.standing record.source supply
  have hstanding := hstart.answered (.recordById record.id) _ rfl howns
  have hback := legReversed hstanding htoward hmem hreverse
  have hfinal := hback.standing.answered (.deleteRecord record.id)
    (middle.unit.dropRecord record.id) rfl howns
  rw [← hlast] at hfinal
  have hrecords : last.unit.working.records = snapshot.records.erase record.id := by
    rw [hlast]
    exact congrArg (Table.erase · record.id) hback.records_eq
  have hframe := hback.frame.trans
    (⟨rfl, rfl, rfl, rfl⟩ : middle.Frame (middle.answered (.deleteRecord record.id)
      (middle.unit.dropRecord record.id)))
  rw [← hlast] at hframe
  refine ⟨record.source, .of_free hfree hfinal.calls ?_
    (hframe.owed hopening.consistent.owed)⟩
  have hbalanced := hfinal.balanced
  rwa [← hrecords] at hbalanced

theorem settled_updateRecord (hopening : Opening promise snapshot last) {id : RecordId}
    {kind : RecordKind} {money : Money} {changed : Record}
    (hperform : (updateRecord id kind money).work.perform (.start snapshot supply) =
      .ok (changed, last)) :
    ∃ owner, Mandate.Settled promise ⟨snapshot, owner, last⟩ := by
  obtain ⟨record, _, hfind, hrest⟩ := perform_bind_eq_ok.mp hperform
  obtain ⟨hstored, hfree, rfl⟩ := perform_findFreeRecord hfind
  obtain ⟨reversed, middle, hreverse, hrest⟩ := perform_bind_eq_ok.mp hrest
  obtain ⟨balance, applied, happly, htail⟩ := perform_bind_eq_ok.mp hrest
  obtain ⟨now, _, hnow, hrest⟩ := perform_bind_eq_ok.mp htail
  obtain ⟨-, rfl⟩ := perform_now_eq_ok.mp hnow
  obtain ⟨⟨⟩, _, hupdate, hpure⟩ := perform_bind_eq_ok.mp hrest
  obtain ⟨-, rfl⟩ := perform_pure_eq_ok.mp hpure
  obtain ⟨hmem, hid⟩ := Table.find?_eq_some_iff.mp hstored
  change record.id = id at hid
  subst hid
  have htoward := (Course.Toward.end snapshot record.source last).of_perform htail
  have howns : Mandate.OwnsRecord ⟨snapshot, record.source, last⟩ record.id := by
    refine ⟨record, hstored, rfl, fun _ => htoward.writes.balances ?_⟩
    exact (MemoryUnit.writes_grow_of_perform happly).balances (held_of_reverseRecord hreverse)
  have hstart := hopening.standing record.source supply
  have hstanding := hstart.answered (.recordById record.id) _ rfl howns
  have hrepost := legReposted hstanding hmem rfl hstored rfl hreverse happly hupdate (.end _ _ _)
  have hrecords : last.unit.working.records = snapshot.records.insert _ := hrepost.records_eq
  refine ⟨record.source, .of_free hfree hrepost.standing.calls ?_
    (hrepost.frame.owed hopening.consistent.owed)⟩
  have hbalanced := hrepost.standing.balanced
  rwa [← hrecords] at hbalanced

end CashLedger.Engine
