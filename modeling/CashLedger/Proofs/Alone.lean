import CashLedger.Proofs.Accounts
import CashLedger.Proofs.Engine.Effects
import CashLedger.Proofs.Engine.Openings
import CashLedger.Proofs.Filed
import CashLedger.Proofs.Isolation

/-!
# Changes made alone

Nobody comes between the start of a change that is made alone and its commit.  So it goes
through exactly if its request passes the check and the movements can be made that its work
enacts; and then the store has the rows that its unit had.
-/

namespace CashLedger

theorem Table.OnePerPair.congr {balances balances' : Table Balance}
    (hone : balances.OnePerPair) (hsame : balances'.Same balances) : balances'.OnePerPair :=
  fun left hleft right hright =>
    hone left (hsame.mem_iff.mp hleft) right (hsame.mem_iff.mp hright)

namespace Request

variable {limits : Limits} {request : Request} {tables : Tables} {supply : Supply}
  {value : request.Answer} {last : Course}

theorem lone_of_perform (hopens : ∀ user currency, request ≠ .openBalance user currency)
    (hperform : (request.operation limits).work.perform (.start tables supply) =
      .ok (value, last)) : last.unit.Lone tables := by
  have hcalls : ∀ call ∈ last.calls, ∀ balance, call ≠ .createBalance balance := by
    rintro call hcall balance rfl
    rcases (Work.passes_of_perform hperform).exists_rule (request.opens limits []) hcall with
      hstart | ⟨_, user, hopened⟩
    · exact absurd hstart List.not_mem_nil
    · exact hopens user _ hopened
  exact MemoryUnit.of_perform (fun hallowed hlone hanswer => hlone.answer hallowed hanswer)
    hperform hcalls (.start tables)

/-! ## How the run ends -/

section Run

variable {world world' : World Tables} {result : Except LedgerError request.Answer}
  (hrun : (request.operation limits).run Memory.backend world = (result, world'))

include hrun

theorem eq_of_run_refused {cause : LedgerError}
    (hcheck : (request.operation limits).check = .error cause) :
    result = .error cause ∧ world'.store = world.store := by
  simp only [Operation.run, hcheck, Operation.notes_memory, Prod.mk.injEq] at hrun
  exact ⟨hrun.1.symm, by rw [← hrun.2]⟩

omit hrun in
theorem check_of_run_ok (hrun : (request.operation limits).run Memory.backend world =
    (.ok value, world')) : (request.operation limits).check = .ok () := by
  cases hcheck : (request.operation limits).check with
  | error cause =>
    obtain ⟨hrefused, -⟩ := eq_of_run_refused hrun hcheck
    cases hrefused
  | ok _ => rfl

theorem eq_of_run_failed {cause : LedgerError}
    (hcheck : (request.operation limits).check = .ok ())
    (hperform : (request.operation limits).work.perform (.start world.store world.supply) =
      .error cause) : result = .error cause ∧ world'.store = world.store := by
  have hended := (request.operation limits).run_memory world hcheck
  rw [hrun, Operation.conclude_memory, hperform] at hended
  exact Prod.mk.inj hended

theorem eq_of_run_done (hchange : request.isChange = true)
    (hopens : ∀ user currency, request ≠ .openBalance user currency)
    (hcheck : (request.operation limits).check = .ok ())
    (hperform : (request.operation limits).work.perform (.start world.store world.supply) =
      .ok (value, last)) :
    result = .ok value ∧ world'.store.Same last.unit.working ∧ world'.supply = last.supply := by
  have hlone := lone_of_perform hopens hperform
  have hcommit : last.unit.commit world.store = .ok (last.unit.publish world.store) :=
    MemoryUnit.commit_eq_ok_iff.mpr ⟨hlone.check, rfl⟩
  have hended := (request.operation limits).run_memory world hcheck
  have hsupply := (request.operation limits).supply_run world hcheck
  rw [hrun, Operation.conclude_memory, hperform, purpose_operation, if_pos hchange] at hended
  simp only [Operation.outcome, hcommit] at hended
  obtain ⟨hresult, hstore⟩ := Prod.mk.inj hended
  refine ⟨hresult, ?_, ?_⟩
  · change world'.store = _ at hstore
    rw [hstore]
    exact hlone.published
  · rw [hrun, Operation.conclude, Operation.supply_close] at hsupply
    rw [hsupply]
    have hdone := Work.run_of_perform_ok hperform
      (@rfl _ { world with log := world.log ++ (request.operation limits).opening }.supply)
    exact congrArg (fun ended => ended.2.2.supply) hdone

end Run

/-! ## What is left -/

end Request

namespace Tables

/-- Tables of which the balances have moved and are all in their places. -/
structure Moved (place : Places) (movements : List Movement) (before after : Tables) : Prop where
  moves : before.balances.accounts.moves movements = some after.balances.accounts
  still : ∀ id, (Movement.tallyAll movements id).count = 0 →
    after.balances.find? id = before.balances.find? id
  onePerPair : after.balances.OnePerPair
  place_eq : after.place = place

/-- Each balance has shifted by what the movements come to over it. -/
theorem Moved.shifted {place : Places} {movements : List Movement} {before after : Tables}
    {tally : Balance → Tally} (hmoved : Moved place movements before after)
    (htally : ∀ balance ∈ before.balances.rows,
      Movement.tallyAll movements balance.id = tally balance) :
    before.balances.Shifted tally after.balances :=
  Table.shifted_of_accounts (Accounts.shifted_of_moves hmoved.moves) hmoved.still htally

/-- A change that went through exactly if its check was passed and its movements could be made,
and then left what holds of its answer. -/
structure Enacted {α : Type} (checked : Bool) (place : Places) (movements : List Movement)
    (before after : Tables) (post : α → Prop) (result : Except LedgerError α) : Prop where
  isOk : result.isOk = (checked && (before.balances.accounts.moves movements).isSome)
  ok : ∀ {value}, result = .ok value → Moved place movements before after ∧ post value

theorem Enacted.isOk_iff {α : Type} {checked : Bool} {place : Places} {movements : List Movement}
    {before after : Tables} {post : α → Prop} {result : Except LedgerError α}
    (henacted : Enacted checked place movements before after post result)
    (hchecked : checked = true) :
    result.isOk ↔ (before.balances.accounts.moves movements).isSome := by
  rw [henacted.isOk, hchecked, Bool.true_and]

theorem Enacted.mono {α : Type} {checked : Bool} {place : Places} {movements : List Movement}
    {before after : Tables} {post post' : α → Prop} {result : Except LedgerError α}
    (henacted : Enacted checked place movements before after post result)
    (hpost : ∀ value, post value → post' value) :
    Enacted checked place movements before after post' result :=
  ⟨henacted.isOk, fun hresult => (henacted.ok hresult).imp_right (hpost _)⟩

end Tables

namespace Request

variable {limits : Limits} {request : Request} {place : Places} {movements : List Movement}
  {post : request.Answer → Course → Prop} {world world' : World Tables}
  {result : Except LedgerError request.Answer}

/-- A change that is made alone goes through exactly if its check passes and its movements can
be made, and then leaves the rows that its unit had. -/
theorem alone
    (henacts : (request.operation limits).work.Enacts place (.start world.store world.supply)
      movements post)
    (hchange : request.isChange = true)
    (hopens : ∀ user currency, request ≠ .openBalance user currency)
    (hrun : (request.operation limits).run Memory.backend world = (result, world')) :
    Tables.Enacted (request.operation limits).check.isOk place movements world.store world'.store
      (fun value => ∃ last : Course, post value last ∧ world'.store.Same last.unit.working ∧
        world'.supply = last.supply) result := by
  cases hcheck : (request.operation limits).check with
  | error cause =>
    obtain ⟨rfl, -⟩ := eq_of_run_refused hrun hcheck
    exact ⟨rfl, nofun⟩
  | ok _ =>
    cases hperform : (request.operation limits).work.perform
        (.start world.store world.supply) with
    | error cause =>
      obtain ⟨rfl, -⟩ := eq_of_run_failed hrun hcheck hperform
      have hmoves : world.store.balances.accounts.moves movements = none :=
        henacts.error hperform
      refine ⟨?_, nofun⟩
      rw [hmoves]
      rfl
    | ok done =>
      obtain ⟨value, last⟩ := done
      obtain ⟨rfl, hsame, hsupply⟩ := eq_of_run_done hrun hchange hopens hcheck hperform
      obtain ⟨⟨hmoves, hstill⟩, hplaced, hpost⟩ := henacts.ok hperform
      have hmoves : world.store.balances.accounts.moves movements = some last.accounts := hmoves
      refine ⟨by rw [hmoves]; rfl, ?_⟩
      rintro _ ⟨⟩
      have hone := hplaced.onePerPair.congr hsame.balances
      refine ⟨⟨?_, fun id hcount => (hsame.balances id).trans (hstill id hcount), hone, ?_⟩,
        last, hpost, hsame, hsupply⟩
      · rw [hmoves, Course.accounts, Table.accounts_congr hsame.balances]
      · rw [← hplaced.place_eq]
        exact (Tables.place_congr hone hsame.balances hplaced.onePerPair).symm

end Request

/-! ## Rows of a store -/

/-- The rows of a store to which a change was committed. -/
theorem Course.Leaves.same {tables store : Tables} {last : Course} {records : Table Record}
    {exchanges : Table Exchange} {debtors : Table Debtor} {debts : Table Debt}
    (hleaves : last.Leaves tables records exchanges debtors debts)
    (hsame : store.Same last.unit.working) :
    store.Same ⟨tables.users, last.unit.working.balances, records, exchanges, debtors, debts⟩ := by
  rwa [hleaves] at hsame

theorem Course.Leaves.same_of_moved {tables store : Tables} {last : Course}
    {records : Table Record} {exchanges : Table Exchange} {debtors : Table Debtor}
    {debts : Table Debt} (hleaves : last.Leaves tables records exchanges debtors debts)
    (hsame : store.Same last.unit.working) :
    store.Same ⟨tables.users, store.balances, records, exchanges, debtors, debts⟩ :=
  { hleaves.same hsame with balances := .refl _ }

/-- No identifier was drawn twice, and none that the tables hold already. -/
structure Supply.New (supply : Supply) (tables : Tables) : Prop where
  distinct : supply.Distinct
  fresh : ∀ uuid ∈ supply.drawn, uuid ∉ tables.uuids

/-- Records under new names come to those that there are. -/
theorem Supply.New.perm {supply : Supply} {before : Tables} {posted : List Record}
    {records : Table Record} (hnew : supply.New before)
    (hdrawn : ∀ record ∈ posted, record.id.uuid ∈ supply.drawn)
    (hdistinct : (posted.map Record.id).Nodup)
    (hsame : records.Same (posted.foldl Table.insert before.records)) :
    records.rows.Perm (posted ++ before.records.rows) := by
  refine hsame.perm.trans (Table.foldl_insert_perm hdistinct fun record hmem hid => ?_)
  obtain ⟨other, hother, hsameId⟩ := List.mem_map.mp hid
  change other.id = record.id at hsameId
  exact hnew.fresh _ (hdrawn other hother) (hsameId ▸ Twinned.mem_uuids hmem)

/-- What is drawn anew names no record that is stored, and no owner of one. -/
theorem Tables.Consistent.unnamed {promise : Promise} {tables : Tables} {drawn : List Uuid}
    (hconsistent : tables.Consistent promise) (hfresh : ∀ uuid ∈ drawn, uuid ∉ tables.uuids)
    {record : Record} (hmem : record ∈ tables.records.rows) :
    record.id.uuid ∉ drawn ∧
      (∀ id : ExchangeId, record.source = .exchange id → id.uuid ∉ drawn) ∧
      ∀ id : DebtId, record.source = .debt id → id.uuid ∉ drawn := by
  refine ⟨fun hdrawn => hfresh _ hdrawn (Twinned.mem_uuids hmem), fun id hsource hdrawn => ?_,
    fun id hsource hdrawn => ?_⟩
  · obtain ⟨exchange, hfind⟩ := hconsistent.exchangeOf record hmem id hsource
    obtain ⟨hstored, rfl⟩ := Table.find?_eq_some_iff.mp hfind
    exact hfresh _ hdrawn (Twinned.mem_uuids hstored)
  · obtain ⟨debt, hfind⟩ := hconsistent.debtOf record hmem id hsource
    obtain ⟨hstored, rfl⟩ := Table.find?_eq_some_iff.mp hfind
    exact hfresh _ hdrawn (Twinned.mem_uuids hstored)

/-- What is known of the order of records holds of those that continue them. -/
theorem pairwise_of_continues {old posted : List Record}
    (heach : List.Forall₂ Record.Continues old posted)
    (hordered : old.Pairwise fun a b => Record.olderFirst a b = true ∧ a.id ≠ b.id) :
    posted.Pairwise fun a b => Record.olderFirst a b = true ∧ a.id ≠ b.id := by
  induction heach with
  | nil => exact .nil
  | cons hhead hrest ih =>
    obtain ⟨hfirst, hordered⟩ := List.pairwise_cons.mp hordered
    refine List.pairwise_cons.mpr ⟨fun record hmem => ?_, ih hordered⟩
    obtain ⟨before, hbefore, hsame⟩ := exists_related_of_mem hrest hmem
    rw [hhead.olderFirst_eq hsame, hhead.id, hsame.id]
    exact hfirst before hbefore

namespace Tables

theorem pairwise_recordsWhere (tables : Tables) (chosen : Record → Bool) :
    (tables.recordsWhere chosen).Pairwise
      fun a b => Record.olderFirst a b = true ∧ a.id ≠ b.id := by
  have hsorted : (tables.recordsWhere chosen).Pairwise
      fun a b => Record.olderFirst a b = true :=
    List.pairwise_mergeSort olderFirst_trans olderFirst_total _
  have hdistinct : ((tables.recordsWhere chosen).map Record.id).Nodup := by
    rw [((tables.recordsWhere_perm chosen).map Record.id).nodup_iff]
    exact tables.records.nodup_filter _
  exact hsorted.and (List.pairwise_map.mp hdistinct)

theorem source_eq_iff_listed {tables : Tables} {owner : RecordSource} {chosen : Record → Bool}
    (hchosen : ∀ {record : Record}, chosen record = true ↔ record.source = owner) {record : Record}
    (hmem : record ∈ tables.records.rows) :
    record.source = owner ↔ record.id ∈ (tables.recordsWhere chosen).map Record.id := by
  constructor
  · exact fun hsource => List.mem_map_of_mem (mem_recordsWhere.mpr ⟨hmem, hchosen.mpr hsource⟩)
  · intro hlisted
    obtain ⟨other, hother, hid⟩ := List.mem_map.mp hlisted
    obtain ⟨hother, hkept⟩ := mem_recordsWhere.mp hother
    rw [← Table.eq_of_key_eq hother hmem hid]
    exact hchosen.mp hkept

section Owner

variable {owner : RecordSource} {before after : Tables}

/-- Records of one owner that are put in, from old to young, in the place of all that it had:
they are its listing, and the others stay. -/
theorem listed_of_posted {records : Table Record} {posted : List Record} {chosen : Record → Bool}
    (hchosen : ∀ {record : Record}, chosen record = true ↔ record.source = owner)
    (hsame : after.records.Same (posted.foldl Table.insert records))
    (hordered : posted.Pairwise fun a b => Record.olderFirst a b = true ∧ a.id ≠ b.id)
    (howner : ∀ record ∈ posted, record.source = owner)
    (hold : ∀ record ∈ records.rows,
      record.source = owner ↔ record.id ∈ posted.map Record.id) :
    after.recordsWhere chosen = posted ∧
      ∀ record, record.source ≠ owner →
        (record ∈ after.records.rows ↔ record ∈ records.rows) := by
  have hdistinct : (posted.map Record.id).Nodup :=
    List.pairwise_map.mpr (hordered.imp fun h => h.2)
  have hperm : ((posted.foldl Table.insert records).rows.filter chosen).Perm posted :=
    Table.filter_foldl_insert_perm hdistinct (fun record hmem => hchosen.mpr (howner record hmem))
      fun record hmem hkeep => (hold record hmem).mp (hchosen.mp hkeep)
  refine ⟨recordsWhere_eq ((hsame.perm.filter _).trans hperm) (hordered.imp fun h => h.1),
    fun record hother => ?_⟩
  rw [hsame.mem_iff, Table.mem_rows_foldl_insert hdistinct]
  constructor
  · rintro (hposted | ⟨hmem, -⟩)
    · exact absurd (howner record hposted) hother
    · exact hmem
  · exact fun hmem => .inr ⟨hmem, fun hid => hother ((hold record hmem).mpr hid)⟩

/-- When all records of an owner are dropped, it has none, and the others stay. -/
theorem kept_of_dropped {chosen : Record → Bool}
    (hchosen : ∀ {record : Record}, chosen record = true ↔ record.source = owner)
    (hsame : after.records.Same (before.recordsWithout chosen)) :
    (∀ record ∈ after.records.rows, record.source ≠ owner) ∧
      ∀ record, record.source ≠ owner →
        (record ∈ after.records.rows ↔ record ∈ before.records.rows) := by
  have hdropped : ∀ {record : Record}, chosen record = false ↔ record.source ≠ owner :=
    fun {record} => by rw [← Bool.not_eq_true, hchosen]
  simp only [hsame.mem_iff, mem_recordsWithout, hdropped]
  exact ⟨fun record h => h.2, fun record hother => and_iff_left hother⟩

end Owner

end Tables

end CashLedger
