import CashLedger.Proofs.Course

/-!
# What a write set says about a unit

A unit remembers every row it wrote and the version it found a balance or debtor
with.  Outside its write set it still has the tables it was opened on, and each
row that was there before stands now with a higher version.  So the tables that
a commit publishes hold the unit's rows for what it wrote and are otherwise
untouched.
-/

namespace CashLedger

open Keyed (key)

/-- What is noted of a row at its first write, given the version it was found
with. -/
def Base.of : Option Int64 → Base
  | none => .created
  | some version => .stored version

namespace WriteSet

def balanceIds (writes : WriteSet) : List BalanceId := writes.balances.map Prod.fst

def debtorIds (writes : WriteSet) : List DebtorId := writes.debtors.map Prod.fst

variable {κ : Type} [DecidableEq κ]

theorem mem_touch {touched : List (κ × Base)} {id : κ} {base : Base} {entry : κ × Base} :
    entry ∈ touch touched id base ↔
      entry ∈ touched ∨ id ∉ touched.map Prod.fst ∧ entry = (id, base) := by
  unfold touch
  split <;> simp_all

theorem mem_map_fst_touch {touched : List (κ × Base)} {id other : κ} {base : Base} :
    other ∈ (touch touched id base).map Prod.fst ↔
      other ∈ touched.map Prod.fst ∨ other = id := by
  unfold touch
  split
  · next hmem =>
    constructor
    · exact Or.inl
    · rintro (h | rfl)
      · exact h
      · exact hmem
  · simp

/-- Everything that one write set has is in the other. -/
structure Grows (first last : WriteSet) : Prop where
  balances : first.balanceIds ⊆ last.balanceIds
  debtors : first.debtorIds ⊆ last.debtorIds

theorem Grows.refl (writes : WriteSet) : writes.Grows writes :=
  ⟨List.Subset.refl _, List.Subset.refl _⟩

theorem Grows.trans {first middle last : WriteSet} (hfirst : first.Grows middle)
    (hlast : middle.Grows last) : first.Grows last :=
  ⟨List.Subset.trans hfirst.balances hlast.balances,
    List.Subset.trans hfirst.debtors hlast.debtors⟩

end WriteSet

/-- Only the last of all versions has no next one. -/
theorem Int64.toInt_add_one_of_ne_max {version : Int64} (hroom : version ≠ Int64.maxValue) :
    (version + 1).toInt = version.toInt + 1 := by
  have hlow := Int64.le_toInt version
  have hhigh := Int64.toInt_lt version
  have hne : version.toInt ≠ 9223372036854775807 := fun h => hroom (Int64.toInt_inj.mp h)
  rw [Int64.toInt_add, Int64.toInt_one, Int.bmod_eq_of_le (by omega) (by omega)]

theorem Int64.lt_add_one_of_ne_max {version : Int64} (hroom : version ≠ Int64.maxValue) :
    version < version + 1 := by
  rw [Int64.lt_iff_toInt_lt, toInt_add_one_of_ne_max hroom]
  omega

namespace Table

variable {α κ : Type} [Keyed α κ] [DecidableEq κ]

/-- Outside the given keys a table is as it was. -/
def Unwritten (keys : List κ) (snapshot working : Table α) : Prop :=
  ∀ k ∉ keys, working.find? k = snapshot.find? k

namespace Unwritten

variable {keys : List κ} {snapshot working : Table α}

theorem insert (hunwritten : Unwritten keys snapshot working) (row : α) :
    Unwritten (keys.insert (key row)) snapshot (working.insert row) := by
  intro k hk
  rw [List.mem_insert_iff, not_or] at hk
  rw [find?_insert_of_ne _ hk.1, hunwritten k hk.2]

theorem erase (hunwritten : Unwritten keys snapshot working) (k : κ) :
    Unwritten (keys.insert k) snapshot (working.erase k) := by
  intro other hother
  rw [List.mem_insert_iff, not_or] at hother
  rw [find?_erase, if_neg hother.1, hunwritten other hother.2]

end Unwritten

/-- How a table of rows with versions stands to the one it was copied from: rows
that were not touched are the same, of the others the version they had is noted,
and all that were there have a higher one now. -/
structure Raised (version : α → Int64) (touched : List (κ × Base))
    (snapshot working : Table α) : Prop where
  unwritten : Unwritten (touched.map Prod.fst) snapshot working
  base : ∀ k base, (k, base) ∈ touched → base = .of ((snapshot.find? k).map version)
  raised : ∀ k found, (k, .stored found) ∈ touched →
    ∃ row, working.find? k = some row ∧ found < version row

namespace Raised

variable {version : α → Int64} {touched : List (κ × Base)} {snapshot working : Table α}

theorem refl (version : α → Int64) (snapshot : Table α) :
    Raised version [] snapshot snapshot where
  unwritten _ _ := rfl
  base _ _ h := by cases h
  raised _ _ h := by cases h

/-- A row that the snapshot has not is new. -/
theorem create (hraised : Raised version touched snapshot working) {row : α}
    (hfresh : snapshot.find? (key row) = none) :
    Raised version (WriteSet.touch touched (key row) .created) snapshot
      (working.insert row) where
  unwritten k hk := by
    rw [WriteSet.mem_map_fst_touch, not_or] at hk
    rw [find?_insert_of_ne _ hk.2, hraised.unwritten k hk.1]
  base k base hmem := by
    rcases WriteSet.mem_touch.mp hmem with h | ⟨-, h⟩
    · exact hraised.base k base h
    · cases h
      rw [hfresh]
      rfl
  raised k found hmem := by
    rcases WriteSet.mem_touch.mp hmem with h | ⟨-, h⟩
    · have hne : k ≠ key row := by
        rintro rfl
        have := hraised.base _ _ h
        rw [hfresh] at this
        cases this
      rw [find?_insert_of_ne _ hne]
      exact hraised.raised k found h
    · cases h

/-- The current row gives way to one with a higher version. -/
theorem revise (hraised : Raised version touched snapshot working) {row current : α}
    (hfind : working.find? (key row) = some current) (hlt : version current < version row) :
    Raised version (WriteSet.touch touched (key row) (.stored (version current))) snapshot
      (working.insert row) where
  unwritten k hk := by
    rw [WriteSet.mem_map_fst_touch, not_or] at hk
    rw [find?_insert_of_ne _ hk.2, hraised.unwritten k hk.1]
  base k base hmem := by
    rcases WriteSet.mem_touch.mp hmem with h | ⟨hfirst, h⟩
    · exact hraised.base k base h
    · cases h
      rw [← hraised.unwritten _ hfirst, hfind]
      rfl
  raised k found hmem := by
    by_cases heq : k = key row
    · subst heq
      refine ⟨row, find?_insert_self working row, ?_⟩
      rcases WriteSet.mem_touch.mp hmem with h | ⟨-, h⟩
      · obtain ⟨old, hold, hle⟩ := hraised.raised _ _ h
        rw [hfind] at hold
        cases hold
        exact Int64.lt_trans hle hlt
      · cases h
        exact hlt
    · rw [find?_insert_of_ne _ heq]
      rcases WriteSet.mem_touch.mp hmem with h | ⟨-, h⟩
      · exact hraised.raised k found h
      · cases h
        exact absurd rfl heq

theorem stored_mem (hraised : Raised version touched snapshot working) {k : κ} {row : α}
    (hmem : k ∈ touched.map Prod.fst) (hfind : snapshot.find? k = some row) :
    (k, .stored (version row)) ∈ touched := by
  obtain ⟨⟨k', base⟩, hentry, rfl⟩ := List.mem_map.mp hmem
  have hbase := hraised.base k' base hentry
  rw [hfind] at hbase
  subst hbase
  exact hentry

/-- A row of the snapshot that has been touched stands with a higher version. -/
theorem lt_of_mem (hraised : Raised version touched snapshot working) {k : κ} {row : α}
    (hmem : k ∈ touched.map Prod.fst) (hfind : snapshot.find? k = some row) :
    ∃ now, working.find? k = some now ∧ version row < version now :=
  hraised.raised k _ (hraised.stored_mem hmem hfind)

end Raised

end Table

/-! ## Calls -/

namespace Call

/-- A new balance or debtor has an identifier that the tables do not have yet. -/
def FreshIn (tables : Tables) : Call → Prop
  | createBalance balance => tables.balances.find? balance.id = none
  | createDebtor debtor => tables.debtors.find? debtor.id = none
  | _ => True

end Call

namespace MemoryUnit

/-- How a unit's tables stand to those it was opened on. -/
structure Tracks (snapshot : Tables) (unit : MemoryUnit) : Prop where
  users : unit.working.users = snapshot.users
  balances : Table.Raised Balance.version unit.writes.balances snapshot.balances
    unit.working.balances
  records : Table.Unwritten unit.writes.records snapshot.records unit.working.records
  exchanges : Table.Unwritten unit.writes.exchanges snapshot.exchanges
    unit.working.exchanges
  debtors : Table.Raised Debtor.version unit.writes.debtors snapshot.debtors
    unit.working.debtors
  debts : Table.Unwritten unit.writes.debts snapshot.debts unit.working.debts

theorem changing_eq_ok {present : Bool} {missing : LedgerError}
    {unit changed last : MemoryUnit} {answer : Unit} :
    changing present missing unit changed = (.ok answer, last) ↔
      present = true ∧ last = changed := by
  cases present <;> simp [changing, eq_comm]

theorem createBalance_eq_ok {unit last : MemoryUnit} {balance : Balance} {answer : Unit} :
    unit.createBalance balance = (.ok answer, last) ↔
      unit.working.balanceFor balance.userId balance.currency = none ∧
        last = unit.writeBalance balance .created := by
  unfold createBalance
  cases unit.working.balanceFor balance.userId balance.currency <;> simp [eq_comm]

theorem updateBalance_eq_ok {unit last : MemoryUnit} {balance stored : Balance} :
    unit.updateBalance balance = (.ok stored, last) ↔
      ∃ current, unit.working.balances.find? balance.id = some current ∧
        current.version = balance.version ∧
        stored = { balance with version := balance.version + 1 } ∧
        last = unit.writeBalance stored (.stored current.version) := by
  unfold updateBalance
  cases unit.working.balances.find? balance.id with
  | none => simp
  | some current =>
    by_cases hversion : current.version = balance.version
    · simp only [hversion, if_true, Prod.mk.injEq, Except.ok.injEq, Option.some.injEq]
      constructor
      · rintro ⟨rfl, rfl⟩
        exact ⟨current, rfl, hversion, rfl, by rw [hversion]⟩
      · rintro ⟨_, rfl, -, rfl, rfl⟩
        exact ⟨rfl, by rw [hversion]⟩
    · simp only [hversion, if_false, Prod.mk.injEq, reduceCtorEq, false_and, false_iff,
        Option.some.injEq]
      rintro ⟨_, rfl, h, -⟩
      exact hversion h

theorem updateDebtor_eq_ok {unit last : MemoryUnit} {debtor stored : Debtor} :
    unit.updateDebtor debtor = (.ok stored, last) ↔
      ∃ current, unit.working.debtors.find? debtor.id = some current ∧
        current.version = debtor.version ∧
        stored = { debtor with version := debtor.version + 1 } ∧
        last = unit.writeDebtor stored (.stored current.version) := by
  unfold updateDebtor
  cases unit.working.debtors.find? debtor.id with
  | none => simp
  | some current =>
    by_cases hversion : current.version = debtor.version
    · simp only [hversion, if_true, Prod.mk.injEq, Except.ok.injEq, Option.some.injEq]
      constructor
      · rintro ⟨rfl, rfl⟩
        exact ⟨current, rfl, hversion, rfl, by rw [hversion]⟩
      · rintro ⟨_, rfl, -, rfl, rfl⟩
        exact ⟨rfl, by rw [hversion]⟩
    · simp only [hversion, if_false, Prod.mk.injEq, reduceCtorEq, false_and, false_iff,
        Option.some.injEq]
      rintro ⟨_, rfl, h, -⟩
      exact hversion h

theorem stops_iff {unit last : MemoryUnit} {request : Call} {answer : request.Answer}
    (hanswer : unit.answer request = (.ok answer, last)) :
    unit.stops request = true ↔ ¬request.HasRoom := by
  rw [stops, hanswer]
  simp [Except.isOk, Except.toBool]

/-- A call that comes back with an answer has found a next version. -/
theorem hasRoom_of_answer {unit last : MemoryUnit} {request : Call} {answer : request.Answer}
    (hreturns : unit.stops request = false) (hanswer : unit.answer request = (.ok answer, last)) :
    request.HasRoom := by
  rwa [← Bool.not_eq_true, stops_iff hanswer, not_not] at hreturns

namespace Tracks

variable {snapshot : Tables} {unit last : MemoryUnit}

theorem refl (snapshot : Tables) : Tracks snapshot ⟨snapshot, {}⟩ where
  users := rfl
  balances := .refl _ _
  records _ _ := rfl
  exchanges _ _ := rfl
  debtors := .refl _ _
  debts _ _ := rfl

theorem dropRecords (htracks : Tracks snapshot unit) (ids : List RecordId) :
    Tracks snapshot (ids.foldl dropRecord unit) := by
  induction ids generalizing unit with
  | nil => exact htracks
  | cons id rest ih =>
    exact ih { htracks with records := htracks.records.erase id }

theorem answer (htracks : Tracks snapshot unit) {request : Call} {result : request.Answer}
    (hanswer : unit.answer request = (.ok result, last))
    (hfresh : request.FreshIn snapshot) (hroom : request.HasRoom) :
    Tracks snapshot last := by
  cases request with
  | createBalance balance =>
    obtain ⟨-, rfl⟩ := createBalance_eq_ok.mp hanswer
    exact { htracks with balances := htracks.balances.create hfresh }
  | updateBalance balance =>
    obtain ⟨current, hfind, hversion, rfl, rfl⟩ := updateBalance_eq_ok.mp hanswer
    refine { htracks with balances := htracks.balances.revise hfind ?_ }
    rw [hversion]
    exact Int64.lt_add_one_of_ne_max fun hmax => hroom (congrArg some hmax)
  | createRecord record =>
    cases hanswer
    exact { htracks with records := htracks.records.insert record }
  | updateRecord record =>
    obtain ⟨-, rfl⟩ := changing_eq_ok.mp hanswer
    exact { htracks with records := htracks.records.insert record }
  | deleteRecord id =>
    obtain ⟨-, rfl⟩ := changing_eq_ok.mp hanswer
    exact { htracks with records := htracks.records.erase id }
  | deleteRecordsForExchange id =>
    cases hanswer
    exact htracks.dropRecords _
  | deleteRecordsForDebt id =>
    cases hanswer
    exact htracks.dropRecords _
  | createExchange exchange =>
    cases hanswer
    exact { htracks with exchanges := htracks.exchanges.insert exchange }
  | updateExchange exchange =>
    obtain ⟨-, rfl⟩ := changing_eq_ok.mp hanswer
    exact { htracks with exchanges := htracks.exchanges.insert exchange }
  | deleteExchange id =>
    obtain ⟨-, rfl⟩ := changing_eq_ok.mp hanswer
    exact { htracks with exchanges := htracks.exchanges.erase id }
  | createDebtor debtor =>
    cases hanswer
    exact { htracks with debtors := htracks.debtors.create hfresh }
  | updateDebtor debtor =>
    obtain ⟨current, hfind, hversion, rfl, rfl⟩ := updateDebtor_eq_ok.mp hanswer
    refine { htracks with debtors := htracks.debtors.revise hfind ?_ }
    rw [hversion]
    exact Int64.lt_add_one_of_ne_max fun hmax => hroom (congrArg some hmax)
  | createDebt debt =>
    cases hanswer
    exact { htracks with debts := htracks.debts.insert debt }
  | updateDebt debt =>
    obtain ⟨-, rfl⟩ := changing_eq_ok.mp hanswer
    exact { htracks with debts := htracks.debts.insert debt }
  | deleteDebt id =>
    obtain ⟨-, rfl⟩ := changing_eq_ok.mp hanswer
    exact { htracks with debts := htracks.debts.erase id }
  | _ =>
    -- What only reads leaves the unit as it is.
    cases hanswer
    exact htracks

end Tracks

/-! ## What holds along a course -/

/-- What every answered call keeps holds at the end of a course whose calls all
allow it. -/
theorem of_perform {α : Type} {allowed : Call → Prop} {holds : MemoryUnit → Prop}
    (hstep : ∀ {request : Call} {answer : request.Answer} {unit last : MemoryUnit},
      allowed request → holds unit → unit.answer request = (.ok answer, last) → holds last)
    {work : Work α} {course last : Course} {value : α}
    (hperform : work.perform course = .ok (value, last))
    (hallowed : ∀ request ∈ last.calls, allowed request) (hstart : holds course.unit) :
    holds last.unit := by
  induction work generalizing course with
  | done result =>
    obtain ⟨rfl, rfl⟩ := Prod.mk.inj (Except.ok.inj hperform)
    exact hstart
  | fail cause => cases hperform
  | call request next ih =>
    simp only [Work.perform_call] at hperform
    cases hanswer : course.unit.answer request with
    | mk result unit =>
      rw [hanswer] at hperform
      cases result with
      | error cause => cases hperform
      | ok answer =>
        have hcalls := (Work.leads_of_perform hperform).calls.subset
        have hrequest : request ∈ last.calls := hcalls (by simp)
        exact ih answer hperform (hstep (hallowed request hrequest) hstart hanswer)
  | clock next ih => exact ih _ hperform hstart
  | draw next ih => exact ih _ hperform hstart

theorem mem_balanceIds_writeBalance (unit : MemoryUnit) (balance : Balance) (base : Base) :
    balance.id ∈ (unit.writeBalance balance base).writes.balanceIds :=
  WriteSet.mem_map_fst_touch.mpr (.inr rfl)

theorem mem_debtorIds_writeDebtor (unit : MemoryUnit) (debtor : Debtor) (base : Base) :
    debtor.id ∈ (unit.writeDebtor debtor base).writes.debtorIds :=
  WriteSet.mem_map_fst_touch.mpr (.inr rfl)

theorem writes_grow_writeBalance (unit : MemoryUnit) (balance : Balance) (base : Base) :
    unit.writes.Grows (unit.writeBalance balance base).writes where
  balances id hid := by
    simp only [WriteSet.balanceIds, writeBalance, WriteSet.mem_map_fst_touch]
    exact .inl hid
  debtors := List.Subset.refl _

theorem writes_grow_writeDebtor (unit : MemoryUnit) (debtor : Debtor) (base : Base) :
    unit.writes.Grows (unit.writeDebtor debtor base).writes where
  balances := List.Subset.refl _
  debtors id hid := by
    simp only [WriteSet.debtorIds, writeDebtor, WriteSet.mem_map_fst_touch]
    exact .inl hid

theorem writes_grow_dropRecords (unit : MemoryUnit) (ids : List RecordId) :
    unit.writes.Grows (ids.foldl dropRecord unit).writes := by
  induction ids generalizing unit with
  | nil => exact .refl _
  | cons id rest ih =>
    have hrest := ih (unit.dropRecord id)
    exact ⟨hrest.balances, hrest.debtors⟩

theorem writes_grow_answer {unit last : MemoryUnit} {request : Call}
    {answer : request.Answer} (hanswer : unit.answer request = (.ok answer, last)) :
    unit.writes.Grows last.writes := by
  cases request with
  | createBalance balance =>
    obtain ⟨-, rfl⟩ := createBalance_eq_ok.mp hanswer
    exact unit.writes_grow_writeBalance _ _
  | updateBalance balance =>
    obtain ⟨current, -, -, -, rfl⟩ := updateBalance_eq_ok.mp hanswer
    exact unit.writes_grow_writeBalance _ _
  | createDebtor debtor =>
    cases hanswer
    exact unit.writes_grow_writeDebtor _ _
  | updateDebtor debtor =>
    obtain ⟨current, -, -, -, rfl⟩ := updateDebtor_eq_ok.mp hanswer
    exact unit.writes_grow_writeDebtor _ _
  | deleteRecordsForExchange id =>
    cases hanswer
    exact unit.writes_grow_dropRecords _
  | deleteRecordsForDebt id =>
    cases hanswer
    exact unit.writes_grow_dropRecords _
  | updateRecord _ | deleteRecord _ | updateExchange _ | deleteExchange _
  | updateDebt _ | deleteDebt _ =>
    obtain ⟨-, rfl⟩ := changing_eq_ok.mp hanswer
    exact ⟨List.Subset.refl _, List.Subset.refl _⟩
  | _ =>
    cases hanswer
    exact ⟨List.Subset.refl _, List.Subset.refl _⟩

theorem writes_grow_of_perform {α : Type} {work : Work α} {course last : Course} {value : α}
    (hperform : work.perform course = .ok (value, last)) :
    course.unit.writes.Grows last.unit.writes := by
  apply @of_perform α (fun _ => True) (course.unit.writes.Grows ·.writes) _ work course
    last value hperform (fun _ _ => trivial) (.refl _)
  intro request answer unit next _ hgrows hanswer
  exact hgrows.trans (writes_grow_answer hanswer)

/-! ## Commits -/

theorem forM_eq_ok_iff {α : Type} {check : α → Except LedgerError Unit} {entries : List α} :
    entries.forM check = .ok () ↔ ∀ entry ∈ entries, check entry = .ok () := by
  induction entries with
  | nil => simp [List.forM, pure, Except.pure]
  | cons head rest ih =>
    simp only [List.forM, List.forall_mem_cons, ← ih]
    cases check head <;> simp [bind, Except.bind]

theorem check_eq_ok_iff {unit : MemoryUnit} {shared : Tables} :
    unit.check shared = .ok () ↔
      (∀ entry ∈ unit.writes.balances, unit.checkBalance shared entry = .ok ()) ∧
        ∀ entry ∈ unit.writes.debtors, checkDebtor shared entry = .ok () := by
  rw [← forM_eq_ok_iff, ← forM_eq_ok_iff]
  simp only [check]
  cases unit.writes.balances.forM (unit.checkBalance shared) <;>
    simp [bind, Except.bind]

theorem commit_eq_ok_iff {unit : MemoryUnit} {shared published : Tables} :
    unit.commit shared = .ok published ↔
      unit.check shared = .ok () ∧ published = unit.publish shared := by
  simp only [commit]
  cases unit.check shared <;> simp [bind, Except.bind, pure, Except.pure, eq_comm]

theorem checkBalance_stored_eq_ok {unit : MemoryUnit} {shared : Tables} {id : BalanceId}
    {version : Int64} :
    unit.checkBalance shared (id, .stored version) = .ok () ↔
      (shared.balances.find? id).map Balance.version = some version := by
  simp only [checkBalance]
  split <;> simp_all

theorem checkBalance_created_eq_ok {unit : MemoryUnit} {shared : Tables} {id : BalanceId}
    {opened : Balance} (hfind : unit.working.balances.find? id = some opened) :
    unit.checkBalance shared (id, .created) = .ok () ↔
      ∀ balance ∈ shared.balances.rows, balance.userId = opened.userId →
        balance.currency = opened.currency → balance.id = opened.id := by
  simp only [checkBalance, hfind]
  split
  · next htaken =>
    obtain ⟨balance, hmem, htaken⟩ := List.any_eq_true.mp htaken
    simp only [Bool.and_eq_true, decide_eq_true_eq] at htaken
    simp only [reduceCtorEq, false_iff, not_forall]
    exact ⟨balance, hmem, htaken.1.2, htaken.2, htaken.1.1⟩
  · next hfree =>
    simp only [true_iff]
    intro balance hmem huser hcurrency
    by_contra hne
    apply hfree
    rw [List.any_eq_true]
    exact ⟨balance, hmem, by simp [hne, huser, hcurrency]⟩

theorem checkDebtor_stored_eq_ok {shared : Tables} {id : DebtorId} {version : Int64} :
    checkDebtor shared (id, .stored version) = .ok () ↔
      (shared.debtors.find? id).map Debtor.version = some version := by
  simp only [checkDebtor]
  split <;> simp_all

section Publish

variable (unit : MemoryUnit) (shared : Tables)

theorem publish_users : (unit.publish shared).users = shared.users := rfl

theorem find?_publish_balances (id : BalanceId) :
    (unit.publish shared).balances.find? id =
      if id ∈ unit.writes.balanceIds then unit.working.balances.find? id
      else shared.balances.find? id :=
  Table.find?_foldl_copyRow _ _ _ _

theorem find?_publish_records (id : RecordId) :
    (unit.publish shared).records.find? id =
      if id ∈ unit.writes.records then unit.working.records.find? id
      else shared.records.find? id :=
  Table.find?_foldl_copyRow _ _ _ _

theorem find?_publish_exchanges (id : ExchangeId) :
    (unit.publish shared).exchanges.find? id =
      if id ∈ unit.writes.exchanges then unit.working.exchanges.find? id
      else shared.exchanges.find? id :=
  Table.find?_foldl_copyRow _ _ _ _

theorem find?_publish_debtors (id : DebtorId) :
    (unit.publish shared).debtors.find? id =
      if id ∈ unit.writes.debtorIds then unit.working.debtors.find? id
      else shared.debtors.find? id :=
  Table.find?_foldl_copyRow _ _ _ _

theorem find?_publish_debts (id : DebtId) :
    (unit.publish shared).debts.find? id =
      if id ∈ unit.writes.debts then unit.working.debts.find? id
      else shared.debts.find? id :=
  Table.find?_foldl_copyRow _ _ _ _

end Publish

end MemoryUnit

/-! ## Tables of the same content -/

/-- Each table has the same content. -/
structure Tables.Same (left right : Tables) : Prop where
  users : left.users = right.users
  balances : left.balances.Same right.balances
  records : left.records.Same right.records
  exchanges : left.exchanges.Same right.exchanges
  debtors : left.debtors.Same right.debtors
  debts : left.debts.Same right.debts

/-- A commit on the tables that the unit was opened on publishes the unit's own. -/
theorem MemoryUnit.publish_same {snapshot : Tables} {unit : MemoryUnit}
    (husers : unit.working.users = snapshot.users)
    (hbalances : Table.Unwritten unit.writes.balanceIds snapshot.balances unit.working.balances)
    (hrecords : Table.Unwritten unit.writes.records snapshot.records unit.working.records)
    (hexchanges : Table.Unwritten unit.writes.exchanges snapshot.exchanges
      unit.working.exchanges)
    (hdebtors : Table.Unwritten unit.writes.debtorIds snapshot.debtors unit.working.debtors)
    (hdebts : Table.Unwritten unit.writes.debts snapshot.debts unit.working.debts) :
    (unit.publish snapshot).Same unit.working where
  users := husers.symm
  balances id := by
    rw [find?_publish_balances]
    split
    · rfl
    · next h => exact (hbalances id h).symm
  records id := by
    rw [find?_publish_records]
    split
    · rfl
    · next h => exact (hrecords id h).symm
  exchanges id := by
    rw [find?_publish_exchanges]
    split
    · rfl
    · next h => exact (hexchanges id h).symm
  debtors id := by
    rw [find?_publish_debtors]
    split
    · rfl
    · next h => exact (hdebtors id h).symm
  debts id := by
    rw [find?_publish_debts]
    split
    · rfl
    · next h => exact (hdebts id h).symm

theorem MemoryUnit.Tracks.publish_same {snapshot : Tables} {unit : MemoryUnit}
    (htracks : Tracks snapshot unit) : (unit.publish snapshot).Same unit.working :=
  MemoryUnit.publish_same htracks.users htracks.balances.unwritten htracks.records
    htracks.exchanges htracks.debtors.unwritten htracks.debts

end CashLedger
