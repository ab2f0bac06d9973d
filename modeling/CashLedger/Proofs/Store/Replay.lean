import CashLedger.Proofs.Store.Unit

/-!
# Replaying a unit on other tables

What a call answers depends only on the rows in its scope.  So a unit that went
through on one set of tables goes through in the same way, and writes the same
rows, on any other that agrees with it on the scopes of the calls made.  This is
what lets a validated snapshot stand for the shared tables.
-/

namespace CashLedger

open Keyed (key)

/-- Tests for the rows of each table that an answer depends on. -/
structure Scope where
  balances : Balance → Bool := fun _ => false
  records : Record → Bool := fun _ => false
  exchanges : Exchange → Bool := fun _ => false
  debtors : Debtor → Bool := fun _ => false
  debts : Debt → Bool := fun _ => false

/-- The same rows in the same order, as far as a scope goes. -/
structure Scope.Agree (scope : Scope) (left right : Tables) : Prop where
  balances : left.balances.rows.filter scope.balances =
    right.balances.rows.filter scope.balances
  records : left.records.rows.filter scope.records =
    right.records.rows.filter scope.records
  exchanges : left.exchanges.rows.filter scope.exchanges =
    right.exchanges.rows.filter scope.exchanges
  debtors : left.debtors.rows.filter scope.debtors =
    right.debtors.rows.filter scope.debtors
  debts : left.debts.rows.filter scope.debts = right.debts.rows.filter scope.debts

/-- The rows that the answer to a call depends on; users apart, whom no unit
changes. -/
def Call.scope : Call → Scope
  | createBalance balance =>
    { balances := fun b => b.userId = balance.userId && b.currency = balance.currency }
  | balanceById id => { balances := fun b => b.id = id }
  | balanceFor user currency =>
    { balances := fun b => b.userId = user && b.currency = currency }
  | balancesForUser user => { balances := fun b => b.userId = user }
  | balancesForCompany company => { balances := fun b => b.companyId = company }
  | allBalances => { balances := fun _ => true }
  | updateBalance balance => { balances := fun b => b.id = balance.id }
  | recordById id => { records := fun r => r.id = id }
  | updateRecord record => { records := fun r => r.id = record.id }
  | deleteRecord id => { records := fun r => r.id = id }
  | recordsForBalance id => { records := Record.isOnBalance id }
  | recordsForExchange id => { records := Record.isOfExchange id }
  | recordsForDebt id => { records := Record.isOfDebt id }
  | deleteRecordsForExchange id => { records := Record.isOfExchange id }
  | deleteRecordsForDebt id => { records := Record.isOfDebt id }
  | exchangeById id => { exchanges := fun x => x.id = id }
  | updateExchange exchange => { exchanges := fun x => x.id = exchange.id }
  | deleteExchange id => { exchanges := fun x => x.id = id }
  | debtorById id => { debtors := fun d => d.id = id }
  | debtorsForUser user => { debtors := fun d => d.userId = user }
  | updateDebtor debtor => { debtors := fun d => d.id = debtor.id }
  | debtById id => { debts := fun d => d.id = id }
  | debtsForDebtor debtor => { debts := fun d => d.debtorId = debtor }
  | updateDebt debt => { debts := fun d => d.id = debt.id }
  | deleteDebt id => { debts := fun d => d.id = id }
  | createRecord _ | createExchange _ | createDebtor _ | createDebt _ | userById _ => {}

namespace Table

variable {α κ : Type} [Keyed α κ] [DecidableEq κ]

theorem find?_eq_of_filter_eq {left right : Table α} {k : κ}
    (heq : (left.rows.filter fun row => key row = k) =
      right.rows.filter fun row => key row = k) :
    left.find? k = right.find? k := by
  rw [← head?_filter_key, ← head?_filter_key, heq]

theorem contains_eq_of_filter_eq {left right : Table α} {k : κ}
    (heq : (left.rows.filter fun row => key row = k) =
      right.rows.filter fun row => key row = k) :
    left.contains k = right.contains k := by
  rw [contains, contains, find?_eq_of_filter_eq heq]

/-- The same row, or none, under each of some keys. -/
def SameOn (keys : List κ) (left right : Table α) : Prop :=
  ∀ k ∈ keys, left.find? k = right.find? k

variable {keys : List κ} {left right : Table α}

theorem SameOn.insert (hsame : SameOn keys left right) {more : List κ} (row : α)
    (hmore : ∀ k ∈ more, k ∈ keys ∨ k = key row) :
    SameOn more (left.insert row) (right.insert row) := by
  intro k hk
  rw [find?_insert, find?_insert]
  split
  · rfl
  · next hne => exact hsame k ((hmore k hk).resolve_right hne)

theorem SameOn.erase (hsame : SameOn keys left right) (k : κ) :
    SameOn (keys.insert k) (left.erase k) (right.erase k) := by
  intro other hother
  rw [find?_erase, find?_erase]
  split
  · rfl
  · next hne => exact hsame other ((List.mem_insert_iff.mp hother).resolve_left hne)

end Table

namespace MemoryUnit

/-- Two units that have written the same rows and that no call of a list could
tell apart. -/
structure Alike (calls : List Call) (left right : MemoryUnit) : Prop where
  writes : left.writes = right.writes
  users : left.working.users = right.working.users
  seen : ∀ request ∈ calls, request.scope.Agree left.working right.working
  balances : Table.SameOn left.writes.balanceIds left.working.balances
    right.working.balances
  records : Table.SameOn left.writes.records left.working.records right.working.records
  exchanges : Table.SameOn left.writes.exchanges left.working.exchanges
    right.working.exchanges
  debtors : Table.SameOn left.writes.debtorIds left.working.debtors right.working.debtors
  debts : Table.SameOn left.writes.debts left.working.debts right.working.debts

/-- Two units that have just been opened. -/
theorem Alike.start {calls : List Call} {left right : Tables}
    (husers : left.users = right.users)
    (hagree : ∀ request ∈ calls, request.scope.Agree left right) :
    Alike calls ⟨left, {}⟩ ⟨right, {}⟩ where
  writes := rfl
  users := husers
  seen := hagree
  balances _ h := by cases h
  records _ h := by cases h
  exchanges _ h := by cases h
  debtors _ h := by cases h
  debts _ h := by cases h

namespace Alike

variable {calls : List Call} {left right : MemoryUnit}

theorem writeBalance (halike : Alike calls left right) (balance : Balance) (base : Base) :
    Alike calls (left.writeBalance balance base) (right.writeBalance balance base) :=
  { halike with
    writes := by simp [MemoryUnit.writeBalance, halike.writes]
    seen := fun request hmem =>
      { halike.seen request hmem with
        balances := by
          simp only [MemoryUnit.writeBalance, Table.filter_insert,
            (halike.seen request hmem).balances] }
    balances := halike.balances.insert balance fun _ =>
      WriteSet.mem_map_fst_touch.mp }

theorem writeDebtor (halike : Alike calls left right) (debtor : Debtor) (base : Base) :
    Alike calls (left.writeDebtor debtor base) (right.writeDebtor debtor base) :=
  { halike with
    writes := by simp [MemoryUnit.writeDebtor, halike.writes]
    seen := fun request hmem =>
      { halike.seen request hmem with
        debtors := by
          simp only [MemoryUnit.writeDebtor, Table.filter_insert,
            (halike.seen request hmem).debtors] }
    debtors := halike.debtors.insert debtor fun _ => WriteSet.mem_map_fst_touch.mp }

theorem writeRecord (halike : Alike calls left right) (record : Record) :
    Alike calls (left.writeRecord record) (right.writeRecord record) :=
  { halike with
    writes := by simp [MemoryUnit.writeRecord, halike.writes]
    seen := fun request hmem =>
      { halike.seen request hmem with
        records := by
          simp only [MemoryUnit.writeRecord, Table.filter_insert,
            (halike.seen request hmem).records] }
    records := halike.records.insert record fun _ hk =>
      (List.mem_insert_iff.mp hk).symm }

theorem writeExchange (halike : Alike calls left right) (exchange : Exchange) :
    Alike calls (left.writeExchange exchange) (right.writeExchange exchange) :=
  { halike with
    writes := by simp [MemoryUnit.writeExchange, halike.writes]
    seen := fun request hmem =>
      { halike.seen request hmem with
        exchanges := by
          simp only [MemoryUnit.writeExchange, Table.filter_insert,
            (halike.seen request hmem).exchanges] }
    exchanges := halike.exchanges.insert exchange fun _ hk =>
      (List.mem_insert_iff.mp hk).symm }

theorem writeDebt (halike : Alike calls left right) (debt : Debt) :
    Alike calls (left.writeDebt debt) (right.writeDebt debt) :=
  { halike with
    writes := by simp [MemoryUnit.writeDebt, halike.writes]
    seen := fun request hmem =>
      { halike.seen request hmem with
        debts := by
          simp only [MemoryUnit.writeDebt, Table.filter_insert,
            (halike.seen request hmem).debts] }
    debts := halike.debts.insert debt fun _ hk => (List.mem_insert_iff.mp hk).symm }

theorem dropRecord (halike : Alike calls left right) (id : RecordId) :
    Alike calls (left.dropRecord id) (right.dropRecord id) :=
  { halike with
    writes := by simp [MemoryUnit.dropRecord, halike.writes]
    seen := fun request hmem =>
      { halike.seen request hmem with
        records := by
          simp only [MemoryUnit.dropRecord, Table.filter_erase,
            (halike.seen request hmem).records] }
    records := halike.records.erase id }

theorem dropExchange (halike : Alike calls left right) (id : ExchangeId) :
    Alike calls (left.dropExchange id) (right.dropExchange id) :=
  { halike with
    writes := by simp [MemoryUnit.dropExchange, halike.writes]
    seen := fun request hmem =>
      { halike.seen request hmem with
        exchanges := by
          simp only [MemoryUnit.dropExchange, Table.filter_erase,
            (halike.seen request hmem).exchanges] }
    exchanges := halike.exchanges.erase id }

theorem dropDebt (halike : Alike calls left right) (id : DebtId) :
    Alike calls (left.dropDebt id) (right.dropDebt id) :=
  { halike with
    writes := by simp [MemoryUnit.dropDebt, halike.writes]
    seen := fun request hmem =>
      { halike.seen request hmem with
        debts := by
          simp only [MemoryUnit.dropDebt, Table.filter_erase,
            (halike.seen request hmem).debts] }
    debts := halike.debts.erase id }

theorem dropRecords (halike : Alike calls left right) (ids : List RecordId) :
    Alike calls (ids.foldl MemoryUnit.dropRecord left)
      (ids.foldl MemoryUnit.dropRecord right) := by
  induction ids generalizing left right with
  | nil => exact halike
  | cons id rest ih => exact ih (halike.dropRecord id)

/-- A call that only reads is answered alike by like units, and leaves them alone. -/
theorem answer_read (halike : Alike calls left right) {request : Call}
    (hmem : request ∈ calls) (hread : request.isRead = true) :
    ∃ result, left.answer request = (.ok result, left) ∧
      right.answer request = (.ok result, right) := by
  have hagree := halike.seen request hmem
  cases request with
  | balanceById id =>
    refine ⟨_, rfl, ?_⟩
    simp only [MemoryUnit.answer]
    rw [Table.find?_eq_of_filter_eq hagree.balances]
  | balanceFor user currency =>
    have hrows := hagree.balances
    simp only [Call.scope] at hrows
    refine ⟨_, rfl, ?_⟩
    simp only [MemoryUnit.answer, Tables.balanceFor, ← List.head?_filter, hrows]
  | balancesForUser user =>
    have hrows := hagree.balances
    simp only [Call.scope] at hrows
    refine ⟨_, rfl, ?_⟩
    simp only [MemoryUnit.answer, Tables.balancesForUser, hrows]
  | balancesForCompany company =>
    have hrows := hagree.balances
    simp only [Call.scope] at hrows
    refine ⟨_, rfl, ?_⟩
    simp only [MemoryUnit.answer, Tables.balancesForCompany, hrows]
  | allBalances =>
    have hrows := hagree.balances
    simp only [Call.scope, List.filter_true] at hrows
    refine ⟨_, rfl, ?_⟩
    simp only [MemoryUnit.answer, Tables.allBalances, hrows]
  | recordById id =>
    refine ⟨_, rfl, ?_⟩
    simp only [MemoryUnit.answer]
    rw [Table.find?_eq_of_filter_eq hagree.records]
  | recordsForBalance id =>
    have hrows := hagree.records
    simp only [Call.scope] at hrows
    refine ⟨_, rfl, ?_⟩
    simp only [MemoryUnit.answer, Tables.recordsWhere, hrows]
  | recordsForExchange id =>
    have hrows := hagree.records
    simp only [Call.scope] at hrows
    refine ⟨_, rfl, ?_⟩
    simp only [MemoryUnit.answer, Tables.recordsWhere, hrows]
  | recordsForDebt id =>
    have hrows := hagree.records
    simp only [Call.scope] at hrows
    refine ⟨_, rfl, ?_⟩
    simp only [MemoryUnit.answer, Tables.recordsWhere, hrows]
  | exchangeById id =>
    refine ⟨_, rfl, ?_⟩
    simp only [MemoryUnit.answer]
    rw [Table.find?_eq_of_filter_eq hagree.exchanges]
  | debtorById id =>
    refine ⟨_, rfl, ?_⟩
    simp only [MemoryUnit.answer]
    rw [Table.find?_eq_of_filter_eq hagree.debtors]
  | debtorsForUser user =>
    have hrows := hagree.debtors
    simp only [Call.scope] at hrows
    refine ⟨_, rfl, ?_⟩
    simp only [MemoryUnit.answer, Tables.debtorsForUser, hrows]
  | debtById id =>
    refine ⟨_, rfl, ?_⟩
    simp only [MemoryUnit.answer]
    rw [Table.find?_eq_of_filter_eq hagree.debts]
  | debtsForDebtor debtor =>
    have hrows := hagree.debts
    simp only [Call.scope] at hrows
    refine ⟨_, rfl, ?_⟩
    simp only [MemoryUnit.answer, Tables.debtsForDebtor, hrows]
  | userById id =>
    refine ⟨_, rfl, ?_⟩
    simp only [MemoryUnit.answer, halike.users]
  | _ => cases hread

/-- A call that writes is answered alike by like units, and keeps them alike. -/
theorem answer_write (halike : Alike calls left right) {request : Call}
    (hmem : request ∈ calls) (hread : request.isRead = false) {result : request.Answer}
    {left' : MemoryUnit} (hanswer : left.answer request = (.ok result, left')) :
    ∃ right', right.answer request = (.ok result, right') ∧
      Alike calls left' right' := by
  have hagree := halike.seen request hmem
  cases request with
  | createBalance balance =>
    obtain ⟨hfree, rfl⟩ := createBalance_eq_ok.mp hanswer
    refine ⟨_, createBalance_eq_ok.mpr ⟨?_, rfl⟩, halike.writeBalance _ _⟩
    rw [← hfree, Tables.balanceFor, Tables.balanceFor, ← List.head?_filter,
      ← List.head?_filter]
    exact congrArg List.head? hagree.balances.symm
  | updateBalance balance =>
    obtain ⟨current, hfind, hversion, rfl, rfl⟩ := updateBalance_eq_ok.mp hanswer
    refine ⟨_, updateBalance_eq_ok.mpr ⟨current, ?_, hversion, rfl, rfl⟩,
      halike.writeBalance _ _⟩
    rw [← hfind]
    exact (Table.find?_eq_of_filter_eq hagree.balances).symm
  | createRecord record =>
    cases hanswer
    exact ⟨_, rfl, halike.writeRecord record⟩
  | updateRecord record =>
    obtain ⟨hpresent, rfl⟩ := changing_eq_ok.mp hanswer
    rw [Table.contains_eq_of_filter_eq hagree.records] at hpresent
    exact ⟨_, changing_eq_ok.mpr ⟨hpresent, rfl⟩, halike.writeRecord record⟩
  | deleteRecord id =>
    obtain ⟨hpresent, rfl⟩ := changing_eq_ok.mp hanswer
    rw [Table.contains_eq_of_filter_eq hagree.records] at hpresent
    exact ⟨_, changing_eq_ok.mpr ⟨hpresent, rfl⟩, halike.dropRecord id⟩
  | deleteRecordsForExchange id =>
    cases hanswer
    have hrows := hagree.records
    simp only [Call.scope] at hrows
    refine ⟨_, ?_, halike.dropRecords _⟩
    simp only [MemoryUnit.answer, deleteRecordsWhere, hrows]
  | deleteRecordsForDebt id =>
    cases hanswer
    have hrows := hagree.records
    simp only [Call.scope] at hrows
    refine ⟨_, ?_, halike.dropRecords _⟩
    simp only [MemoryUnit.answer, deleteRecordsWhere, hrows]
  | createExchange exchange =>
    cases hanswer
    exact ⟨_, rfl, halike.writeExchange exchange⟩
  | updateExchange exchange =>
    obtain ⟨hpresent, rfl⟩ := changing_eq_ok.mp hanswer
    rw [Table.contains_eq_of_filter_eq hagree.exchanges] at hpresent
    exact ⟨_, changing_eq_ok.mpr ⟨hpresent, rfl⟩, halike.writeExchange exchange⟩
  | deleteExchange id =>
    obtain ⟨hpresent, rfl⟩ := changing_eq_ok.mp hanswer
    rw [Table.contains_eq_of_filter_eq hagree.exchanges] at hpresent
    exact ⟨_, changing_eq_ok.mpr ⟨hpresent, rfl⟩, halike.dropExchange id⟩
  | createDebtor debtor =>
    cases hanswer
    exact ⟨_, rfl, halike.writeDebtor debtor .created⟩
  | updateDebtor debtor =>
    obtain ⟨current, hfind, hversion, rfl, rfl⟩ := updateDebtor_eq_ok.mp hanswer
    refine ⟨_, updateDebtor_eq_ok.mpr ⟨current, ?_, hversion, rfl, rfl⟩,
      halike.writeDebtor _ _⟩
    rw [← hfind]
    exact (Table.find?_eq_of_filter_eq hagree.debtors).symm
  | createDebt debt =>
    cases hanswer
    exact ⟨_, rfl, halike.writeDebt debt⟩
  | updateDebt debt =>
    obtain ⟨hpresent, rfl⟩ := changing_eq_ok.mp hanswer
    rw [Table.contains_eq_of_filter_eq hagree.debts] at hpresent
    exact ⟨_, changing_eq_ok.mpr ⟨hpresent, rfl⟩, halike.writeDebt debt⟩
  | deleteDebt id =>
    obtain ⟨hpresent, rfl⟩ := changing_eq_ok.mp hanswer
    rw [Table.contains_eq_of_filter_eq hagree.debts] at hpresent
    exact ⟨_, changing_eq_ok.mpr ⟨hpresent, rfl⟩, halike.dropDebt id⟩
  | _ => cases hread

/-- Like units answer a call alike and are alike afterwards. -/
theorem answer (halike : Alike calls left right) {request : Call}
    (hmem : request ∈ calls) {result : request.Answer} {left' : MemoryUnit}
    (hanswer : left.answer request = (.ok result, left')) :
    ∃ right', right.answer request = (.ok result, right') ∧
      Alike calls left' right' := by
  cases hread : request.isRead with
  | false => exact halike.answer_write hmem hread hanswer
  | true =>
    obtain ⟨found, hleft, hright⟩ := halike.answer_read hmem hread
    rw [hleft] at hanswer
    cases hanswer
    exact ⟨right, hright, halike⟩

end Alike

/-- Work that went through in one unit goes through in a like unit, with the same
result and the same draws. -/
theorem Alike.perform {α : Type} {work : Work α} {course last : Course} {value : α}
    (hperform : work.perform course = .ok (value, last)) {right : MemoryUnit}
    (halike : Alike last.calls course.unit right) :
    ∃ right', work.perform { course with unit := right } =
        .ok (value, { last with unit := right' }) ∧
      Alike last.calls last.unit right' := by
  induction work generalizing course right with
  | done result =>
    obtain ⟨rfl, rfl⟩ := Prod.mk.inj (Except.ok.inj hperform)
    exact ⟨right, rfl, halike⟩
  | fail cause => cases hperform
  | call request next ih =>
    simp only [Work.perform_call] at hperform ⊢
    cases hanswer : course.unit.answer request with
    | mk result unit =>
      rw [hanswer] at hperform
      cases result with
      | error cause => cases hperform
      | ok answer =>
        have hcalls := (Work.leads_of_perform hperform).calls.subset
        have hmem : request ∈ last.calls := hcalls (by simp)
        obtain ⟨unit', hanswer', halike'⟩ := halike.answer hmem hanswer
        rw [hanswer']
        exact ih answer hperform halike'
  | clock next ih => exact ih _ hperform halike
  | draw next ih => exact ih _ hperform halike

/-! ## Commits of like units -/

section Commit

variable {calls : List Call} {left right : MemoryUnit} {shared : Tables}

theorem Alike.check_eq (halike : Alike calls left right) :
    left.check shared = right.check shared := by
  have hbalance : ∀ entry ∈ left.writes.balances,
      left.checkBalance shared entry = right.checkBalance shared entry := by
    rintro ⟨id, base⟩ hmem
    cases base with
    | stored version => rfl
    | created =>
      have hfind := halike.balances id (List.mem_map_of_mem hmem)
      simp only [checkBalance, hfind]
  have hforM : ∀ entries ⊆ left.writes.balances,
      entries.forM (left.checkBalance shared) = entries.forM (right.checkBalance shared) := by
    intro entries hsubset
    induction entries with
    | nil => rfl
    | cons entry rest ih =>
      simp only [List.forM]
      rw [hbalance entry (hsubset (by simp)), ih fun e he => hsubset (by simp [he])]
  simp only [check]
  rw [hforM _ (List.Subset.refl _), halike.writes]

theorem foldl_copyRow_eq {α κ : Type} [Keyed α κ] [DecidableEq κ] {keys : List κ}
    {left right : Table α} (hsame : left.SameOn keys right) (table : Table α) :
    keys.foldl (Table.copyRow left) table = keys.foldl (Table.copyRow right) table := by
  induction keys generalizing table with
  | nil => rfl
  | cons head rest ih =>
    have hhead : left.copyRow table head = right.copyRow table head := by
      simp only [Table.copyRow, hsame head (by simp)]
    rw [List.foldl_cons, List.foldl_cons, hhead]
    exact ih (fun k hk => hsame k (by simp [hk])) _

theorem Alike.publish_eq (halike : Alike calls left right) :
    left.publish shared = right.publish shared := by
  have hbalances := foldl_copyRow_eq halike.balances shared.balances
  have hrecords := foldl_copyRow_eq halike.records shared.records
  have hexchanges := foldl_copyRow_eq halike.exchanges shared.exchanges
  have hdebtors := foldl_copyRow_eq halike.debtors shared.debtors
  have hdebts := foldl_copyRow_eq halike.debts shared.debts
  simp only [WriteSet.balanceIds, WriteSet.debtorIds] at hbalances hdebtors
  simp only [publish, ← halike.writes, hbalances, hrecords, hexchanges, hdebtors, hdebts]

theorem Alike.commit_eq (halike : Alike calls left right) :
    left.commit shared = right.commit shared := by
  simp only [commit, halike.check_eq, halike.publish_eq]

end Commit

end MemoryUnit

end CashLedger
