import CashLedger.Proofs.Undoing

/-!
# What changes touch

A change takes records of one user out of the books and puts others in, and it moves the balances
of that user by the legs of these records.  Beyond that it touches at most the exchange or the debt
that it names or creates, and the debtor of that debt.  All other rows are as they were.
-/

namespace CashLedger

open Engine

/-! ## Legs of records -/

namespace Record

/-- What the legs of records come to over a balance. -/
def laidOn (records : List Record) (balance : Balance) : Tally where
  outgoing := (records.map (outgoingFrom balance.id)).sum
  incoming := (records.map (incomingTo balance.id)).sum
  count := records.countP fun record => record.balanceId = balance.id

/-- The posting of the leg that a record stands for. -/
def doing (record : Record) : Movement := .applied (some record.balanceId) record.leg

theorem tally_doing (record : Record) (id : BalanceId) :
    record.doing.tally id = ⟨record.outgoingFrom id, record.incomingTo id,
      if record.balanceId = id then 1 else 0⟩ := by
  simp only [doing, Movement.tally, outgoingFrom, incomingTo]
  by_cases hid : record.balanceId = id
  · subst hid
    simp
  · rw [Pi.single_eq_of_ne (Ne.symm hid)]
    simp only [hid, if_false]
    rfl

theorem tallyAll_doing (records : List Record) (balance : Balance) :
    Movement.tallyAll (records.map doing) balance.id = laidOn records balance := by
  induction records with
  | nil => rfl
  | cons record rest ih =>
    rw [List.map_cons, Movement.tallyAll, Pi.add_apply, ih, tally_doing]
    ext
    · simp only [laidOn, Tally.add_outgoing, List.map_cons, List.sum_cons]
    · simp only [laidOn, Tally.add_incoming, List.map_cons, List.sum_cons]
    · simp only [laidOn, Tally.add_count, List.countP_cons, decide_eq_true_eq]
      omega

variable {place : Places} {user : UserId} {direction : Direction} {source : RecordSource}
  {details : Option String} {money : Money} {record : Record}

theorem Posted.posting_eq (hposted : record.Posted place user direction source details money) :
    money.posting place user direction = record.doing := by
  rw [Money.posting, doing, hposted.place, leg, hposted.kind, RecordKind.direction_ofDirection,
    ← hposted.money]
  rfl

theorem map_posting_eq {legs : List Money} {records : List Record}
    (hposted : List.Forall₂ (Posted place user direction source details) legs records) :
    legs.map (Money.posting place user direction) = records.map doing := by
  induction hposted with
  | nil => rfl
  | cons hhead _ ih => rw [List.map_cons, List.map_cons, hhead.posting_eq, ih]

theorem Restated.posting_eq {amounts : ExchangeAmounts} {after : Record}
    (hrestated : record.Restated place user amounts after) :
    (amounts.moneyFor record.kind).posting place user record.kind.direction = after.doing := by
  rw [Money.posting, doing, hrestated.place, leg, hrestated.shows.kind, ← hrestated.shows.money]
  rfl

/-- In whatever order legs are taken back and posted anew, it comes to the same. -/
theorem tallyAll_restating {amounts : ExchangeAmounts} {records posted : List Record}
    (heach : List.Forall₂ (Restated place user amounts) records posted) :
    Movement.tallyAll (records.flatMap (restating place user amounts)) =
      Movement.tallyAll (records.map undoing ++ posted.map doing) := by
  induction heach with
  | nil => rfl
  | cons hhead _ ih =>
    rw [List.flatMap_cons, Movement.tallyAll_append, ih, restating, hhead.posting_eq,
      List.map_cons, List.map_cons, Movement.tallyAll_append, Movement.tallyAll_append]
    funext id
    simp only [Movement.tallyAll, Pi.add_apply]
    ext <;> simp only [Tally.add_outgoing, Tally.add_incoming, Tally.add_count,
      Pi.zero_apply, Tally.zero_outgoing, Tally.zero_incoming, Tally.zero_count] <;> omega

end Record

/-! ## The books of a user -/

namespace Tables

/-- Records of a user have been taken out of the books, and others put in.  Each balance has
shifted by the legs that lay on it and by those that lie on it now, and these are balances of that
user; where there is none of them, the row is as it was. -/
structure Rebooked (user : UserId) (removed added : List Record) (before after : Tables) :
    Prop where
  records : after.records.rows.Perm
    (added ++ before.records.rows.filter fun record => record ∉ removed)
  balances : before.balances.Shifted
    (fun balance => Record.takenBack removed balance + Record.laidOn added balance) after.balances
  users : ∀ record ∈ removed ++ added,
    record.userId = user ∧ before.balances.HasOf user record.balanceId

/-- Nothing has come to the books but a new balance with nothing in it. -/
structure Opened (user : UserId) (currency : Currency) (opened : Balance)
    (before after : Tables) : Prop where
  zero : ∃ owner now, owner.id = user ∧ opened = .zero opened.id owner currency now
  new : before.balances.find? opened.id = none
  balances : after.balances.Same (before.balances.insert opened)
  records : after.records.Same before.records

end Tables

namespace Table

variable {α κ : Type} [DecidableEq κ] [Keyed α κ] {table after : Table α}

open Keyed (key)

theorem eq_key_of_insert {row : α} (hsame : after.Same (table.insert row)) {k : κ}
    (hne : after.find? k ≠ table.find? k) : k = key row :=
  by_contra fun hk => hne ((hsame k).trans (find?_insert_of_ne _ hk))

theorem eq_of_erase {gone : κ} (hsame : after.Same (table.erase gone)) {k : κ}
    (hne : after.find? k ≠ table.find? k) : k = gone := by
  by_contra hk
  refine hne ((hsame k).trans ?_)
  rw [find?_erase, if_neg hk]

end Table

namespace Request

/-- The records that a request takes back: the one that it names, or all of the exchange or debt
that it names. -/
def removed (tables : Tables) : Request → List Record
  | .rollbackRecord id | .updateRecord id _ _ => (tables.records.find? id).toList
  | .updateExchange id _ | .deleteExchange id => tables.recordsWhere (Record.isOfExchange id)
  | .updateDebt id _ | .deleteDebt id => tables.recordsWhere (Record.isOfDebt id)
  | _ => []

/-- The exchange or debt that a request is to change or to delete. -/
def revised? : Request → Option RecordSource
  | .updateExchange id _ | .deleteExchange id => some (.exchange id)
  | .updateDebt id _ | .deleteDebt id => some (.debt id)
  | _ => none

/-- The exchange or debt that a request names or has created. -/
def owner? : (request : Request) → request.Answer → Option RecordSource
  | .createExchange _, created => some (.exchange created.id)
  | .createDebt _, posting => some (.debt posting.debt.id)
  | .settleDebt _, posting => some (.debt posting.debt.id)
  | request, _ => request.revised?

/-- What becomes of balances and records. -/
def Rebooks (before : Tables) : (request : Request) → request.Answer → Tables → Prop
  | .openBalance user currency, opened, after => before.Opened user currency opened after
  | request, _, after => ∃ user added, request.AddressedTo user before ∧
      before.Rebooked user (request.removed before) added after ∧
      ∀ record ∈ added, record.id ∈ (request.removed before).map Record.id ∨
        before.records.find? record.id = none

/-- The rows that a change touches, which gave this answer. -/
structure Footprint (before : Tables) (request : Request) (value : request.Answer)
    (after : Tables) : Prop where
  rebooks : request.Rebooks before value after
  /-- Of exchanges and debts only the one that is changed or deleted loses records. -/
  removed : ∀ record ∈ request.removed before, record.source.isOwned = true →
    request.revised? = some record.source
  exchanges : ∀ id, after.exchanges.find? id ≠ before.exchanges.find? id →
    request.owner? value = some (.exchange id) ∧
      (request.revised? = none → before.exchanges.find? id = none)
  debts : ∀ id, after.debts.find? id ≠ before.debts.find? id →
    request.owner? value = some (.debt id) ∧
      (request.revised? = none → before.debts.find? id = none)
  /-- The debtor is the one of that debt, and has just come with it or is the same but for the
  balance, the version and the time of change. -/
  debtors : ∀ id, after.debtors.find? id ≠ before.debtors.find? id →
    (∃ key debt, request.owner? value = some (.debt key) ∧ debt.debtorId = id ∧
      (before.debts.find? key = some debt ∨ after.debts.find? key = some debt)) ∧
    ∃ stored, after.debtors.find? id = some stored ∧
      ((∃ wanted, request = .createDebt wanted) ∧ before.debtors.find? id = none ∨
        ∃ debtor, before.debtors.find? id = some debtor ∧
          debtor.Rebalanced (some stored.balance) stored)
  users : after.users = before.users

end Request

namespace Engine

open Work Posting

/-! ## Rows -/

section Rows

variable {tables store : Tables} {removed added : List Record} {kept : Table Record}

theorem perm_of_foldl_insert (hsame : store.records.Same (added.foldl Table.insert kept))
    (hdistinct : (added.map Record.id).Nodup)
    (hkept : ∀ record, (record ∈ kept.rows ∧ record.id ∉ added.map Record.id) ↔
      record ∈ tables.records.rows ∧ record ∉ removed) :
    store.records.rows.Perm
      (added ++ tables.records.rows.filter fun record => record ∉ removed) := by
  have hmem (record : Record) : record ∈ tables.records.rows.filter (fun record => record ∉ removed)
      ↔ record ∈ kept.rows ∧ record.id ∉ added.map Record.id := by
    rw [List.mem_filter, decide_eq_true_eq, hkept]
  have hapart : added.Disjoint (tables.records.rows.filter fun record => record ∉ removed) :=
    fun record hadded hother => ((hmem record).mp hother).2 (List.mem_map_of_mem hadded)
  apply (List.perm_ext_iff_of_nodup store.records.nodup_rows
    ((hdistinct.of_map Record.id).append (tables.records.nodup_rows.filter _) hapart)).mpr
  intro record
  rw [hsame.mem_iff, Table.mem_rows_foldl_insert hdistinct, List.mem_append, hmem]
  rfl

/-- Records under new names come to those that are left. -/
theorem perm_of_new (hsame : store.records.Same (added.foldl Table.insert kept))
    (hdistinct : (added.map Record.id).Nodup)
    (hkept : ∀ record, record ∈ kept.rows ↔ record ∈ tables.records.rows ∧ record ∉ removed)
    (hnew : ∀ record ∈ added, tables.records.find? record.id = none) :
    store.records.rows.Perm
      (added ++ tables.records.rows.filter fun record => record ∉ removed) := by
  refine perm_of_foldl_insert hsame hdistinct fun record => ?_
  rw [hkept]
  refine and_iff_left_of_imp fun hmem hid => ?_
  obtain ⟨other, hother, hsameId⟩ := List.mem_map.mp hid
  exact Table.find?_eq_none_iff.mp (hnew other hother) record hmem.1 hsameId.symm

/-- Records take the places of others under their names. -/
theorem perm_of_same_ids (hsame : store.records.Same (added.foldl Table.insert tables.records))
    (hids : added.map Record.id = removed.map Record.id)
    (hdistinct : (removed.map Record.id).Nodup) (hold : removed ⊆ tables.records.rows) :
    store.records.rows.Perm
      (added ++ tables.records.rows.filter fun record => record ∉ removed) := by
  refine perm_of_foldl_insert hsame (hids ▸ hdistinct) fun record => and_congr_right fun hmem => ?_
  rw [hids, not_iff_not]
  refine ⟨fun hid => ?_, List.mem_map_of_mem⟩
  obtain ⟨other, hother, hsameId⟩ := List.mem_map.mp hid
  exact Table.eq_of_key_eq (hold hother) hmem hsameId ▸ hother

/-- A debtor who was stored differs from before in nothing but the balance, the version and the
time of change. -/
theorem debtor_of_rebalanced {debtor stored : Debtor} {balance : Option Amount}
    (hsame : store.debtors.Same (tables.debtors.insert stored))
    (hfind : tables.debtors.find? debtor.id = some debtor)
    (hrebalanced : debtor.Rebalanced balance stored) {id : DebtorId}
    (hne : store.debtors.find? id ≠ tables.debtors.find? id) :
    debtor.id = id ∧ ∃ stored, store.debtors.find? id = some stored ∧
      ∃ debtor, tables.debtors.find? id = some debtor ∧
        debtor.Rebalanced (some stored.balance) stored := by
  obtain rfl := Table.eq_key_of_insert hsame hne
  have hid : stored.id = debtor.id := by
    rw [hrebalanced.row]
  refine ⟨hid.symm, stored, (hsame _).trans (Table.find?_insert_self _ _), debtor, ?_, rfl,
    hrebalanced.row⟩
  change tables.debtors.find? stored.id = some debtor
  rwa [hid]

end Rows

/-! ## Changes -/

section Changes

variable {promise : Promise} {limits : Limits} {tables store : Tables} {supply : Supply}
  {last : Course} {user : UserId} {removed added : List Record}

theorem hasOf_of_posted (hone : tables.balances.OnePerPair) {direction : Direction}
    {source : RecordSource} {details : Option String} {money : Money} {record : Record}
    (hposted : record.Posted tables.place user direction source details money) :
    record.userId = user ∧ tables.balances.HasOf user record.balanceId := by
  obtain ⟨balance, hmem, hid, huser, -⟩ := (Tables.place_eq_some_iff hone).mp hposted.place
  exact ⟨hposted.userId, balance, hmem, hid, huser⟩

variable (hopening : Opening promise tables last) (hsame : store.Same last.unit.working)

include hopening hsame

theorem rebooked_of_moves {movements : List Movement}
    (hmoves : (Course.start tables supply).Moves movements last)
    (htally : Movement.tallyAll movements =
      Movement.tallyAll (removed.map Record.undoing ++ added.map Record.doing))
    (hrecords : store.records.rows.Perm
      (added ++ tables.records.rows.filter fun record => record ∉ removed))
    (hremoved : ∀ record ∈ removed, record ∈ tables.records.rows ∧ record.userId = user)
    (hadded : ∀ record ∈ added,
      record.userId = user ∧ tables.balances.HasOf user record.balanceId) :
    tables.Rebooked user removed added store where
  records := hrecords
  balances := by
    have hshifted : tables.balances.Shifted
        (fun balance => Record.takenBack removed balance + Record.laidOn added balance)
        last.unit.working.balances :=
      Table.shifted_of_accounts (Accounts.shifted_of_moves hmoves.accounts) hmoves.still
        fun balance _ => by
          rw [htally, Movement.tallyAll_append, Pi.add_apply, Record.tallyAll_undoing,
            Record.tallyAll_doing]
    intro id
    rw [hsame.balances id]
    exact hshifted id
  users := by
    refine List.forall_mem_append.mpr ⟨fun record hrecord => ?_, hadded⟩
    obtain ⟨hmem, huser⟩ := hremoved record hrecord
    obtain ⟨balance, hfind, howner, -⟩ := hopening.consistent.balanced.placed record hmem
    obtain ⟨hbalance, hid⟩ := Table.find?_eq_some_iff.mp hfind
    exact ⟨huser, balance, hbalance, hid, howner.trans huser⟩

/-! ### Free records -/

omit hopening in
/-- A change that leaves exchanges, debtors and debts alone. -/
theorem footprint_of_leaves {request : Request} {value : request.Answer} {records : Table Record}
    (hleaves : last.Leaves tables records tables.exchanges tables.debtors tables.debts)
    (hrebooks : request.Rebooks tables value store)
    (hremoved : ∀ record ∈ request.removed tables, record.source.isOwned = true →
      request.revised? = some record.source) : request.Footprint tables value store := by
  have hstore := hleaves.same hsame
  exact
    { rebooks := hrebooks
      removed := hremoved
      exchanges := fun id hne => absurd (hstore.exchanges id) hne
      debts := fun id hne => absurd (hstore.debts id) hne
      debtors := fun id hne => absurd (hstore.debtors id) hne
      users := hstore.users }

theorem footprint_openBalance {currency : Currency} {opened : Balance}
    (hperform : (openBalance user currency).work.perform (.start tables supply) =
      .ok (opened, last)) :
    (Request.openBalance user currency).Footprint tables opened store := by
  have hleaves := leaves_openBalance hperform
  refine footprint_of_leaves hsame hleaves ?_ (List.forall_mem_nil _)
  obtain ⟨owner, _, hfound, hrest⟩ := perform_bind_eq_ok.mp hperform
  obtain ⟨hfind, rfl⟩ := perform_findUser_eq_ok.mp hfound
  obtain ⟨now, _, hnow, hrest⟩ := perform_bind_eq_ok.mp hrest
  obtain ⟨-, rfl⟩ := perform_now_eq_ok.mp hnow
  obtain ⟨id, _, hdraw, hrest⟩ := perform_bind_eq_ok.mp hrest
  obtain ⟨rfl, rfl⟩ := perform_newId_eq_ok.mp hdraw
  obtain ⟨_, _, hask, hpure⟩ := perform_bind_eq_ok.mp hrest
  obtain ⟨unit, hanswer, rfl⟩ := perform_ask_eq_ok.mp hask
  obtain ⟨-, rfl⟩ := MemoryUnit.createBalance_eq_ok.mp hanswer
  obtain ⟨rfl, rfl⟩ := perform_pure_eq_ok.mp hpure
  exact
    { zero := ⟨owner, now, Table.key_of_find? hfind, rfl⟩
      new := (hopening.mandate_fresh .manual).balance (Supply.Leads.refl _).draw_mem
      balances := hsame.balances
      records := (hleaves.same hsame).records }

theorem footprint_postBalanceRecord {kind : RecordKind} {money : Money}
    {details : Option String} {record : Record}
    (hperform : (postBalanceRecord limits user kind money details).work.perform
      (.start tables supply) = .ok (record, last)) :
    (Request.postBalanceRecord user kind money details).Footprint tables record store := by
  obtain ⟨owner, _, hfound, -⟩ := perform_bind_eq_ok.mp hperform
  obtain ⟨hfind, -⟩ := perform_findUser_eq_ok.mp hfound
  have hone := hopening.consistent.balanced.unique
  obtain ⟨hmoves, -, hposted⟩ :=
    (enacts_postBalanceRecord hone hfind kind money details).ok hperform
  have hnew : ∀ other ∈ [record], tables.records.find? other.id = none := by
    simpa using (hopening.mandate_fresh .manual).record hposted.drawn
  refine footprint_of_leaves hsame hposted.leaves
    ⟨user, [record], rfl, ?_, fun other hother => .inr (hnew other hother)⟩
    (List.forall_mem_nil _)
  refine rebooked_of_moves hopening hsame hmoves ?_ ?_ (List.forall_mem_nil _) ?_
  · rw [hposted.posted.posting_eq]
    rfl
  · exact perm_of_new (hposted.leaves.same hsame).records (List.nodup_singleton _)
      (by simp [Request.removed]) hnew
  · simpa using hasOf_of_posted hone hposted.posted

/-- The two records of a pair of legs are new. -/
theorem rebooked_of_pair {sold received : Money} {source : RecordSource}
    {details : Option String} {record other : Record}
    (hpair : PairPosted tables user sold received source details record other last.supply)
    (hmoves : (Course.start tables supply).Moves [sold.posting tables.place user .debit,
      received.posting tables.place user .credit] last)
    (hrecords : store.records.Same ((tables.records.insert record).insert other)) :
    tables.Rebooked user [] [record, other] store ∧
      ∀ posted ∈ [record, other], tables.records.find? posted.id = none := by
  have hone := hopening.consistent.balanced.unique
  have hfresh := hopening.mandate_fresh .manual
  have hnew : ∀ posted ∈ [record, other], tables.records.find? posted.id = none := by
    simpa using ⟨hfresh.record hpair.drawn.1, hfresh.record hpair.drawn.2⟩
  refine ⟨rebooked_of_moves hopening hsame hmoves ?_ ?_ (List.forall_mem_nil _) ?_, hnew⟩
  · rw [hpair.sold.posting_eq, hpair.received.posting_eq]
    rfl
  · refine perm_of_new hrecords ?_ (by simp) hnew
    simpa using hpair.distinct hopening.keeps.distinct
  · simpa using ⟨hasOf_of_posted hone hpair.sold, hasOf_of_posted hone hpair.received⟩

theorem footprint_performBalanceRecord {request : ManualExchange} {records : List Record}
    (hperform : (performBalanceRecord limits request).work.perform (.start tables supply) =
      .ok (records, last)) :
    (Request.performBalanceRecord request).Footprint tables records store := by
  obtain ⟨owner, _, hfound, -⟩ := perform_bind_eq_ok.mp hperform
  obtain ⟨hfind, -⟩ := perform_findUser_eq_ok.mp hfound
  obtain ⟨hmoves, -, hposted⟩ :=
    (enacts_performBalanceRecord hopening.consistent.balanced.unique hfind).ok hperform
  obtain ⟨transaction, sold, received, rfl, hpair⟩ := hposted.legs
  obtain ⟨hrebooked, hnew⟩ :=
    rebooked_of_pair hopening hsame hpair hmoves (hposted.leaves.same hsame).records
  exact footprint_of_leaves hsame hposted.leaves ⟨request.userId, [sold, received], rfl, hrebooked,
    fun record hmem => .inr (hnew record hmem)⟩ (List.forall_mem_nil _)

theorem footprint_rollbackRecord {id : RecordId} {balance : Balance}
    (hperform : (rollbackRecord id).work.perform (.start tables supply) = .ok (balance, last)) :
    (Request.rollbackRecord id).Footprint tables balance store := by
  obtain ⟨record, _, hfound, -⟩ := perform_bind_eq_ok.mp hperform
  obtain ⟨hfind, hfree, -⟩ := perform_findFreeRecord hfound
  have hmem : record ∈ tables.records.rows := Table.mem_of_find? hfind
  obtain rfl : record.id = id := Table.key_of_find? hfind
  have hremoved : (Request.rollbackRecord record.id).removed tables = [record] :=
    congrArg Option.toList hfind
  obtain ⟨hmoves, -, hleaves⟩ :=
    (enacts_rollbackRecord hopening.consistent.balanced.unique hmem hfree).ok hperform
  refine footprint_of_leaves hsame hleaves
    ⟨record.userId, [], ⟨record, hmem, rfl, rfl⟩, ?_, List.forall_mem_nil _⟩ ?_
  · rw [hremoved]
    refine rebooked_of_moves hopening hsame hmoves rfl ?_ (by simpa using hmem)
      (List.forall_mem_nil _)
    refine perm_of_new (hleaves.same hsame).records List.nodup_nil (fun other => ?_)
      (List.forall_mem_nil _)
    refine Table.mem_rows_erase.trans (and_congr_right fun hother => ?_)
    rw [List.mem_singleton, not_iff_not]
    exact ⟨fun hid => Table.eq_of_key_eq hother hmem hid, fun h => h ▸ rfl⟩
  · rw [hremoved]
    simp [hfree]

theorem footprint_updateRecord {id : RecordId} {kind : RecordKind} {money : Money}
    {after : Record}
    (hperform : (updateRecord id kind money).work.perform (.start tables supply) =
      .ok (after, last)) :
    (Request.updateRecord id kind money).Footprint tables after store := by
  obtain ⟨record, _, hfound, -⟩ := perform_bind_eq_ok.mp hperform
  obtain ⟨hfind, hfree, -⟩ := perform_findFreeRecord hfound
  have hmem : record ∈ tables.records.rows := Table.mem_of_find? hfind
  obtain rfl : record.id = id := Table.key_of_find? hfind
  have hone := hopening.consistent.balanced.unique
  have hremoved : (Request.updateRecord record.id kind money).removed tables = [record] :=
    congrArg Option.toList hfind
  obtain ⟨hmoves, -, hreplaced⟩ := (enacts_updateRecord hone hmem hfree kind money).ok hperform
  obtain ⟨balance, hplace, hcurrency, hrow⟩ := hreplaced.row
  have hposted : after.Posted tables.place record.userId kind.direction record.source
      record.details money := by
    rw [hrow]
    exact ⟨rfl, hplace, rfl, by rw [Record.money, Record.repost, hcurrency], rfl, rfl⟩
  have hid : after.id = record.id := by
    rw [hrow]
    rfl
  refine footprint_of_leaves hsame hreplaced.leaves
    ⟨record.userId, [after], ⟨record, hmem, rfl, rfl⟩, ?_, ?_⟩ ?_
  · rw [hremoved]
    refine rebooked_of_moves hopening hsame hmoves ?_ ?_ (by simpa using hmem) ?_
    · rw [hposted.posting_eq]
      rfl
    · exact perm_of_same_ids (hreplaced.leaves.same hsame).records (by simp [hid])
        (List.nodup_singleton _) (by simpa using hmem)
    · simpa using hasOf_of_posted hone hposted
  · simp [hremoved, hid]
  · rw [hremoved]
    simp [hfree]

/-! ### Exchanges -/

theorem footprint_createExchange {request : NewExchange} {created : Exchange}
    (hperform : (createExchange limits request).work.perform (.start tables supply) =
      .ok (created, last)) : (Request.createExchange request).Footprint tables created store := by
  obtain ⟨owner, _, hfound, -⟩ := perform_bind_eq_ok.mp hperform
  obtain ⟨hfind, -⟩ := perform_findUser_eq_ok.mp hfound
  obtain ⟨hmoves, -, hmade⟩ :=
    (enacts_createExchange hopening.consistent.balanced.unique hfind).ok hperform
  obtain ⟨sold, received, hpair, hleaves⟩ := hmade.legs
  have hstore := hleaves.same hsame
  obtain ⟨hrebooked, hnew⟩ := rebooked_of_pair hopening hsame hpair hmoves hstore.records
  refine
    { rebooks := ⟨request.userId, [sold, received], rfl, hrebooked, fun record hmem =>
        .inr (hnew record hmem)⟩
      removed := List.forall_mem_nil _
      exchanges := fun id hne => ?_
      debts := fun id hne => absurd (hstore.debts id) hne
      debtors := fun id hne => absurd (hstore.debtors id) hne
      users := hstore.users }
  obtain rfl := Table.eq_key_of_insert hstore.exchanges hne
  exact ⟨rfl, fun _ => (hopening.mandate_fresh .manual).exchange hmade.drawn⟩

omit hopening hsame in
/-- All records of an owner belong to it. -/
theorem revised_of_recordsWhere {owner : RecordSource} {chosen : Record → Bool}
    (hchosen : ∀ {record : Record}, chosen record = true ↔ record.source = owner) :
    ∀ record ∈ tables.recordsWhere chosen, record.source.isOwned = true →
      some owner = some record.source :=
  fun _ hrecord _ => congrArg some (hchosen.mp (Tables.mem_recordsWhere.mp hrecord).2).symm

omit hsame in
theorem mem_of_exchange {exchange : Exchange} (hmem : exchange ∈ tables.exchanges.rows) :
    ∀ record ∈ tables.recordsWhere (Record.isOfExchange exchange.id),
      record ∈ tables.records.rows ∧ record.userId = exchange.userId := by
  intro record hrecord
  obtain ⟨hstored, hchosen⟩ := Tables.mem_recordsWhere.mp hrecord
  exact ⟨hstored, (hopening.consistent.exchanges exchange hmem).userId_eq hstored
    (Record.isOfExchange_iff.mp hchosen)⟩

theorem footprint_updateExchange {id : ExchangeId} {amounts : ExchangeAmounts}
    {changed : Exchange}
    (hperform : (updateExchange id amounts).work.perform (.start tables supply) =
      .ok (changed, last)) :
    (Request.updateExchange id amounts).Footprint tables changed store := by
  obtain ⟨exchange, _, hfound, -⟩ := perform_bind_eq_ok.mp hperform
  obtain ⟨hfind, -⟩ := perform_findExchange hfound
  have hmem : exchange ∈ tables.exchanges.rows := Table.mem_of_find? hfind
  obtain rfl : exchange.id = id := Table.key_of_find? hfind
  have hone := hopening.consistent.balanced.unique
  obtain ⟨hmoves, -, hamended⟩ := (enacts_updateExchange hone hmem
    (hopening.consistent.exchanges exchange hmem) amounts).ok hperform
  obtain ⟨posted, heach, hleaves⟩ := hamended.legs
  have hstore := hleaves.same hsame
  have hids : posted.map Record.id =
      (tables.recordsWhere (Record.isOfExchange exchange.id)).map Record.id :=
    map_id_of_reposted (heach.imp fun _ _ hrestated => hrestated.toReposted)
  refine
    { rebooks := ⟨exchange.userId, posted, ⟨exchange, hmem, rfl, rfl⟩, ?_, fun record hrecord =>
        .inl (hids ▸ List.mem_map_of_mem hrecord)⟩
      removed := revised_of_recordsWhere Record.isOfExchange_iff
      exchanges := fun id hne => ?_
      debts := fun id hne => absurd (hstore.debts id) hne
      debtors := fun id hne => absurd (hstore.debtors id) hne
      users := hstore.users }
  · refine rebooked_of_moves hopening hsame hmoves (Record.tallyAll_restating heach) ?_
      (mem_of_exchange hopening hmem) ?_
    · exact perm_of_same_ids hstore.records hids
        (List.pairwise_map.mpr ((tables.pairwise_recordsWhere _).imp fun h => h.2))
        (tables.subperm_recordsWhere _).subset
    · intro record hrecord
      obtain ⟨old, -, hrestated⟩ := exists_related_of_mem heach hrecord
      obtain ⟨balance, hbalance, hid, huser, -⟩ :=
        (Tables.place_eq_some_iff hone).mp hrestated.place
      exact ⟨hrestated.shows.userId, balance, hbalance, hid, huser⟩
  · obtain rfl := Table.eq_key_of_insert hstore.exchanges hne
    refine ⟨?_, nofun⟩
    rw [hamended.row]
    rfl

theorem footprint_deleteExchange {id : ExchangeId} {deleted : Exchange}
    (hperform : (deleteExchange id).work.perform (.start tables supply) = .ok (deleted, last)) :
    (Request.deleteExchange id).Footprint tables deleted store := by
  obtain ⟨exchange, _, hfound, -⟩ := perform_bind_eq_ok.mp hperform
  obtain ⟨hfind, -⟩ := perform_findExchange hfound
  have hmem : exchange ∈ tables.exchanges.rows := Table.mem_of_find? hfind
  obtain rfl : exchange.id = id := Table.key_of_find? hfind
  obtain ⟨hmoves, -, -, hleaves⟩ :=
    (enacts_deleteExchange hopening.consistent.balanced.unique hmem).ok hperform
  have hstore := hleaves.same hsame
  refine
    { rebooks := ⟨exchange.userId, [], ⟨exchange, hmem, rfl, rfl⟩, ?_, List.forall_mem_nil _⟩
      removed := revised_of_recordsWhere Record.isOfExchange_iff
      exchanges := fun id hne => ?_
      debts := fun id hne => absurd (hstore.debts id) hne
      debtors := fun id hne => absurd (hstore.debtors id) hne
      users := hstore.users }
  · refine rebooked_of_moves hopening hsame hmoves (congrArg _ (List.append_nil _).symm) ?_
      (mem_of_exchange hopening hmem) (List.forall_mem_nil _)
    exact perm_of_new hstore.records List.nodup_nil
      (fun _ => Tables.mem_recordsWithout_iff_notMem) (List.forall_mem_nil _)
  · obtain rfl := Table.eq_of_erase hstore.exchanges hne
    exact ⟨rfl, nofun⟩

/-! ### Debts -/

omit hsame in
theorem mem_of_debt {debt : Debt} (hmem : debt ∈ tables.debts.rows) :
    ∀ record ∈ tables.recordsWhere (Record.isOfDebt debt.id),
      record ∈ tables.records.rows ∧ record.userId = debt.userId := by
  intro record hrecord
  obtain ⟨posted, hperm, -, hlegs, -⟩ := (hopening.consistent.debts debt hmem).2
  exact ⟨(Tables.mem_recordsWhere.mp hrecord).1, (hlegs record
    (hperm.subset ((tables.recordsWhere_perm _).subset hrecord))).userId⟩

omit hsame in
theorem new_of_legs {debt : Debt} {legs : List Money}
    (hlegs : DebtLegs tables.place debt legs added last.supply) :
    ∀ record ∈ added, tables.records.find? record.id = none :=
  fun record hrecord => (hopening.mandate_fresh .manual).record (hlegs.drawn record hrecord)

theorem rebooked_of_legs {debt : Debt} {legs : List Money} {movements : List Movement}
    {kept : Table Record} (hlegs : DebtLegs tables.place debt legs added last.supply)
    (hmoves : (Course.start tables supply).Moves movements last)
    (htally : Movement.tallyAll movements = Movement.tallyAll (removed.map Record.undoing ++
      legs.map (Money.posting tables.place debt.userId debt.kind.direction)))
    (hrecords : store.records.Same (added.foldl Table.insert kept))
    (hkept : ∀ record, record ∈ kept.rows ↔ record ∈ tables.records.rows ∧ record ∉ removed)
    (hremoved : ∀ record ∈ removed,
      record ∈ tables.records.rows ∧ record.userId = debt.userId) :
    tables.Rebooked debt.userId removed added store := by
  rw [Record.map_posting_eq hlegs.posted] at htally
  refine rebooked_of_moves hopening hsame hmoves htally ?_ hremoved fun record hrecord => ?_
  · exact perm_of_new hrecords (hlegs.distinct hopening.keeps.distinct) hkept
      (new_of_legs hopening hlegs)
  · obtain ⟨money, -, hposted⟩ := exists_related_of_mem hlegs.posted hrecord
    exact hasOf_of_posted hopening.consistent.balanced.unique hposted

theorem footprint_createDebt {request : NewDebt} {posting : DebtPosting}
    (hperform : (createDebt limits request).work.perform (.start tables supply) =
      .ok (posting, last)) : (Request.createDebt request).Footprint tables posting store := by
  obtain ⟨owner, _, hfound, -⟩ := perform_bind_eq_ok.mp hperform
  obtain ⟨hfind, -⟩ := perform_findUser_eq_ok.mp hfound
  obtain ⟨hmoves, -, hopened⟩ :=
    (enacts_createDebt hopening.consistent.balanced.unique hfind).ok hperform
  have hstore := hopened.leaves.same hsame
  have hfresh := hopening.mandate_fresh .manual
  obtain ⟨now, hrow⟩ := hopened.row
  obtain ⟨user, _, huser, hcounts⟩ := hopened.debtor
  have hkind : posting.debt.kind = request.kind := by
    rw [hrow]
    rfl
  have howner : posting.debt.userId = request.userId := by
    rw [hrow]
    change posting.debtor.userId = _
    rw [hcounts.row]
    exact Table.key_of_find? huser
  refine
    { rebooks := ⟨posting.debt.userId, posting.records, howner.symm, ?_, fun record hrecord =>
        .inr (new_of_legs hopening hopened.legs record hrecord)⟩
      removed := List.forall_mem_nil _
      exchanges := fun id hne => absurd (hstore.exchanges id) hne
      debts := fun id hne => ?_
      debtors := fun id hne => ?_
      users := hstore.users }
  · refine rebooked_of_legs hopening hsame hopened.legs hmoves ?_ hstore.records
      (by simp [Request.removed]) (List.forall_mem_nil _)
    rw [Movement.tallyAll_passed, howner, hkind]
    rfl
  · obtain rfl := Table.eq_key_of_insert hstore.debts hne
    exact ⟨rfl, fun _ => hfresh.debt hopened.drawn.2⟩
  · obtain rfl := Table.eq_key_of_insert hstore.debtors hne
    refine ⟨⟨_, posting.debt, rfl, by rw [hrow]; rfl,
      .inr ((hstore.debts _).trans (Table.find?_insert_self _ _))⟩, posting.debtor,
      (hstore.debtors _).trans (Table.find?_insert_self _ _),
      .inl ⟨⟨request, rfl⟩, hfresh.debtor hopened.drawn.1⟩⟩

theorem footprint_settleDebt {request : DebtInstallment} {posting : DebtPosting}
    (hperform : (settleDebt limits request).work.perform (.start tables supply) =
      .ok (posting, last)) : (Request.settleDebt request).Footprint tables posting store := by
  obtain ⟨debtor, _, hfound, -⟩ := perform_bind_eq_ok.mp hperform
  obtain ⟨hfind, -⟩ := perform_findDebtor hfound
  have hid : debtor.id = request.debtorId := Table.key_of_find? hfind
  obtain ⟨hmoves, -, hsettled⟩ :=
    (enacts_settleDebt hopening.consistent.balanced.unique hfind).ok hperform
  have hstore := hsettled.leaves.same hsame
  obtain ⟨now, hrow⟩ := hsettled.row
  have hkind : posting.debt.kind = request.kind := by
    rw [hrow]
    rfl
  have howner : posting.debt.userId = debtor.userId := by
    rw [hrow]
    rfl
  refine
    { rebooks := ⟨posting.debt.userId, posting.records,
        ⟨debtor, Table.mem_of_find? hfind, hid, howner.symm⟩, ?_, fun record hrecord =>
        .inr (new_of_legs hopening hsettled.legs record hrecord)⟩
      removed := List.forall_mem_nil _
      exchanges := fun id hne => absurd (hstore.exchanges id) hne
      debts := fun id hne => ?_
      debtors := fun id hne => ?_
      users := hstore.users }
  · refine rebooked_of_legs hopening hsame hsettled.legs hmoves ?_ hstore.records
      (by simp [Request.removed]) (List.forall_mem_nil _)
    rw [Movement.tallyAll_passed, Movement.tallyAll_append_passed, howner, hkind]
    rfl
  · obtain rfl := Table.eq_key_of_insert hstore.debts hne
    exact ⟨rfl, fun _ => (hopening.mandate_fresh .manual).debt hsettled.drawn⟩
  · obtain ⟨rfl, stored, hstored, hrebalanced⟩ :=
      debtor_of_rebalanced hstore.debtors (hid ▸ hfind) hsettled.debtor hne
    exact ⟨⟨_, posting.debt, rfl, by rw [hrow]; rfl,
      .inr ((hstore.debts _).trans (Table.find?_insert_self _ _))⟩, stored, hstored,
      .inr hrebalanced⟩

theorem footprint_updateDebt {id : DebtId} {amounts : DebtAmounts} {posting : DebtPosting}
    (hperform : (updateDebt limits id amounts).work.perform (.start tables supply) =
      .ok (posting, last)) : (Request.updateDebt id amounts).Footprint tables posting store := by
  obtain ⟨debt, _, hfound, hrest⟩ := perform_bind_eq_ok.mp hperform
  obtain ⟨hfind, rfl⟩ := perform_findDebt hfound
  obtain ⟨debtor, _, hfound', -⟩ := perform_bind_eq_ok.mp hrest
  obtain ⟨hdebtor, -⟩ := perform_findDebtor hfound'
  have hmem : debt ∈ tables.debts.rows := Table.mem_of_find? hfind
  obtain rfl : debt.id = id := Table.key_of_find? hfind
  have hid : debtor.id = debt.debtorId := Table.key_of_find? hdebtor
  obtain ⟨hmoves, -, hreset⟩ := (enacts_updateDebt hopening.consistent.balanced.unique hmem hdebtor
    amounts).ok hperform
  have hstore := hreset.leaves.same hsame
  have hkind : posting.debt.kind = amounts.kind := by
    rw [hreset.row]
    rfl
  have howner : posting.debt.userId = debt.userId := by
    rw [hreset.row]
    rfl
  refine
    { rebooks := ⟨posting.debt.userId, posting.records, ⟨debt, hmem, rfl, howner.symm⟩, ?_,
        fun record hrecord => .inr (new_of_legs hopening hreset.legs record hrecord)⟩
      removed := revised_of_recordsWhere Record.isOfDebt_iff
      exchanges := fun id hne => absurd (hstore.exchanges id) hne
      debts := fun id hne => ?_
      debtors := fun id hne => ?_
      users := hstore.users }
  · refine rebooked_of_legs hopening hsame hreset.legs hmoves ?_ hstore.records
      (fun _ => Tables.mem_recordsWithout_iff_notMem) (howner ▸ mem_of_debt hopening hmem)
    rw [Movement.tallyAll_append, Movement.tallyAll_passed, Movement.tallyAll_append_passed,
      Movement.tallyAll_append_passed, ← Movement.tallyAll_append, howner, hkind]
    rfl
  · obtain rfl := Table.eq_key_of_insert hstore.debts hne
    refine ⟨?_, nofun⟩
    rw [hreset.row]
    rfl
  · obtain ⟨rfl, stored, hstored, hrebalanced⟩ :=
      debtor_of_rebalanced hstore.debtors (hid ▸ hdebtor) hreset.debtor hne
    exact ⟨⟨_, debt, rfl, hid.symm, .inl hfind⟩, stored, hstored, .inr hrebalanced⟩

theorem footprint_deleteDebt {id : DebtId} {stored : Debtor}
    (hperform : (deleteDebt id).work.perform (.start tables supply) = .ok (stored, last)) :
    (Request.deleteDebt id).Footprint tables stored store := by
  obtain ⟨debt, _, hfound, hrest⟩ := perform_bind_eq_ok.mp hperform
  obtain ⟨hfind, rfl⟩ := perform_findDebt hfound
  obtain ⟨debtor, _, hfound', -⟩ := perform_bind_eq_ok.mp hrest
  obtain ⟨hdebtor, -⟩ := perform_findDebtor hfound'
  have hmem : debt ∈ tables.debts.rows := Table.mem_of_find? hfind
  obtain rfl : debt.id = id := Table.key_of_find? hfind
  have hid : debtor.id = debt.debtorId := Table.key_of_find? hdebtor
  obtain ⟨hmoves, -, hdropped⟩ :=
    (enacts_deleteDebt hopening.consistent.balanced.unique hmem hdebtor).ok hperform
  have hstore := hdropped.leaves.same hsame
  refine
    { rebooks := ⟨debt.userId, [], ⟨debt, hmem, rfl, rfl⟩, ?_, List.forall_mem_nil _⟩
      removed := revised_of_recordsWhere Record.isOfDebt_iff
      exchanges := fun id hne => absurd (hstore.exchanges id) hne
      debts := fun id hne => ?_
      debtors := fun id hne => ?_
      users := hstore.users }
  · refine rebooked_of_moves hopening hsame hmoves ?_ ?_ (mem_of_debt hopening hmem)
      (List.forall_mem_nil _)
    · rw [Movement.tallyAll_append_passed, List.map_nil, List.append_nil]
      rfl
    · exact perm_of_new hstore.records List.nodup_nil
        (fun _ => Tables.mem_recordsWithout_iff_notMem) (List.forall_mem_nil _)
  · obtain rfl := Table.eq_of_erase hstore.debts hne
    exact ⟨rfl, nofun⟩
  · obtain ⟨rfl, stored, hstored, hrebalanced⟩ :=
      debtor_of_rebalanced hstore.debtors (hid ▸ hdebtor) hdropped.debtor hne
    exact ⟨⟨_, debt, rfl, hid.symm, .inl hfind⟩, stored, hstored, .inr hrebalanced⟩

end Changes

end Engine

end CashLedger
