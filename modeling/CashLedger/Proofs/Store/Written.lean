import CashLedger.Proofs.Store.Unit

/-!
# What calls write

Which rows a call creates, updates or deletes can be read off the call, and off
the tables it meets where it deletes many at once.  A unit's write set has the
names of exactly these rows, and of the balances and debtors among them it notes
which ones the unit created.
-/

namespace CashLedger

/-- A row that units can write, by its identifier. -/
inductive RowName where
  | balance (id : BalanceId)
  | record (id : RecordId)
  | exchange (id : ExchangeId)
  | debtor (id : DebtorId)
  | debt (id : DebtId)
  deriving DecidableEq

abbrev RowName.Row : RowName → Type
  | balance _ => Balance
  | record _ => Record
  | exchange _ => Exchange
  | debtor _ => Debtor
  | debt _ => Debt

def Tables.row? (tables : Tables) : (name : RowName) → Option name.Row
  | .balance id => tables.balances.find? id
  | .record id => tables.records.find? id
  | .exchange id => tables.exchanges.find? id
  | .debtor id => tables.debtors.find? id
  | .debt id => tables.debts.find? id

namespace RowName

/-- Balances and debtors carry versions. -/
def isVersioned : RowName → Bool
  | balance _ | debtor _ => true
  | _ => false

def version : (name : RowName) → name.Row → Int64
  | balance _, row => Balance.version row
  | debtor _, row => Debtor.version row
  | _, _ => 0

end RowName

namespace Call

/-- The row that a call creates. -/
def created? : Call → Option RowName
  | createBalance balance => some (.balance balance.id)
  | createRecord record => some (.record record.id)
  | createExchange exchange => some (.exchange exchange.id)
  | createDebtor debtor => some (.debtor debtor.id)
  | createDebt debt => some (.debt debt.id)
  | _ => none

/-- The row that a call updates. -/
def updated? : Call → Option RowName
  | updateBalance balance => some (.balance balance.id)
  | updateRecord record => some (.record record.id)
  | updateExchange exchange => some (.exchange exchange.id)
  | updateDebtor debtor => some (.debtor debtor.id)
  | updateDebt debt => some (.debt debt.id)
  | _ => none

/-- The rows that a call deletes from tables. -/
def deleted (tables : Tables) : Call → List RowName
  | deleteRecord id => [.record id]
  | deleteExchange id => [.exchange id]
  | deleteDebt id => [.debt id]
  | deleteRecordsForExchange id =>
    (tables.records.rows.filter (Record.isOfExchange id)).map fun record => .record record.id
  | deleteRecordsForDebt id =>
    (tables.records.rows.filter (Record.isOfDebt id)).map fun record => .record record.id
  | _ => []

/-- A call that writes the row of a name, if it is answered on these tables. -/
def Writes (tables : Tables) (request : Call) (name : RowName) : Prop :=
  request.created? = some name ∨ request.updated? = some name ∨ name ∈ request.deleted tables

end Call

/-! ## Names in a write set -/

/-- The write set has the name of a row. -/
def WriteSet.Has (writes : WriteSet) : RowName → Prop
  | .balance id => id ∈ writes.balanceIds
  | .record id => id ∈ writes.records
  | .exchange id => id ∈ writes.exchanges
  | .debtor id => id ∈ writes.debtorIds
  | .debt id => id ∈ writes.debts

namespace MemoryUnit

variable {unit last : MemoryUnit} {name : RowName}

theorem has_writeBalance {balance : Balance} {base : Base} :
    (unit.writeBalance balance base).writes.Has name ↔
      unit.writes.Has name ∨ name = .balance balance.id := by
  cases name <;> simp [WriteSet.Has, writeBalance, WriteSet.balanceIds, WriteSet.debtorIds,
    -List.mem_map, WriteSet.mem_map_fst_touch]

theorem has_writeDebtor {debtor : Debtor} {base : Base} :
    (unit.writeDebtor debtor base).writes.Has name ↔
      unit.writes.Has name ∨ name = .debtor debtor.id := by
  cases name <;> simp [WriteSet.Has, writeDebtor, WriteSet.balanceIds, WriteSet.debtorIds,
    -List.mem_map, WriteSet.mem_map_fst_touch]

theorem has_writeRecord {record : Record} :
    (unit.writeRecord record).writes.Has name ↔
      unit.writes.Has name ∨ name = .record record.id := by
  cases name <;> simp [WriteSet.Has, writeRecord, WriteSet.balanceIds, WriteSet.debtorIds,
    or_comm]

theorem has_dropRecord {id : RecordId} :
    (unit.dropRecord id).writes.Has name ↔ unit.writes.Has name ∨ name = .record id := by
  cases name <;> simp [WriteSet.Has, dropRecord, WriteSet.balanceIds, WriteSet.debtorIds,
    or_comm]

theorem has_writeExchange {exchange : Exchange} :
    (unit.writeExchange exchange).writes.Has name ↔
      unit.writes.Has name ∨ name = .exchange exchange.id := by
  cases name <;> simp [WriteSet.Has, writeExchange, WriteSet.balanceIds, WriteSet.debtorIds,
    or_comm]

theorem has_dropExchange {id : ExchangeId} :
    (unit.dropExchange id).writes.Has name ↔ unit.writes.Has name ∨ name = .exchange id := by
  cases name <;> simp [WriteSet.Has, dropExchange, WriteSet.balanceIds, WriteSet.debtorIds,
    or_comm]

theorem has_writeDebt {debt : Debt} :
    (unit.writeDebt debt).writes.Has name ↔ unit.writes.Has name ∨ name = .debt debt.id := by
  cases name <;> simp [WriteSet.Has, writeDebt, WriteSet.balanceIds, WriteSet.debtorIds,
    or_comm]

theorem has_dropDebt {id : DebtId} :
    (unit.dropDebt id).writes.Has name ↔ unit.writes.Has name ∨ name = .debt id := by
  cases name <;> simp [WriteSet.Has, dropDebt, WriteSet.balanceIds, WriteSet.debtorIds,
    or_comm]

theorem has_dropRecords {ids : List RecordId} :
    (ids.foldl dropRecord unit).writes.Has name ↔
      unit.writes.Has name ∨ name ∈ ids.map RowName.record := by
  induction ids generalizing unit with
  | nil => simp
  | cons id rest ih =>
    rw [List.foldl_cons, ih, has_dropRecord, List.map_cons, List.mem_cons, or_assoc]

/-- The rows that a call writes are the names it adds to the write set. -/
theorem has_answer {request : Call} {answer : request.Answer}
    (hanswer : unit.answer request = (.ok answer, last)) :
    last.writes.Has name ↔ unit.writes.Has name ∨ request.Writes unit.working name := by
  cases request with
  | createBalance balance =>
    obtain ⟨-, rfl⟩ := createBalance_eq_ok.mp hanswer
    simp [has_writeBalance, Call.Writes, Call.created?, Call.updated?, Call.deleted, eq_comm]
  | updateBalance balance =>
    obtain ⟨current, -, -, rfl, rfl⟩ := updateBalance_eq_ok.mp hanswer
    simp [has_writeBalance, Call.Writes, Call.created?, Call.updated?, Call.deleted, eq_comm]
  | createDebtor debtor =>
    cases hanswer
    simp [has_writeDebtor, Call.Writes, Call.created?, Call.updated?, Call.deleted, eq_comm]
  | updateDebtor debtor =>
    obtain ⟨current, -, -, rfl, rfl⟩ := updateDebtor_eq_ok.mp hanswer
    simp [has_writeDebtor, Call.Writes, Call.created?, Call.updated?, Call.deleted, eq_comm]
  | createRecord record =>
    cases hanswer
    simp [has_writeRecord, Call.Writes, Call.created?, Call.updated?, Call.deleted, eq_comm]
  | updateRecord record =>
    obtain ⟨-, rfl⟩ := changing_eq_ok.mp hanswer
    simp [has_writeRecord, Call.Writes, Call.created?, Call.updated?, Call.deleted, eq_comm]
  | deleteRecord id =>
    obtain ⟨-, rfl⟩ := changing_eq_ok.mp hanswer
    simp [has_dropRecord, Call.Writes, Call.created?, Call.updated?, Call.deleted]
  | deleteRecordsForExchange id | deleteRecordsForDebt id =>
    cases hanswer
    rw [has_dropRecords, List.map_map]
    simp [Call.Writes, Call.created?, Call.updated?, Call.deleted]
  | createExchange exchange =>
    cases hanswer
    simp [has_writeExchange, Call.Writes, Call.created?, Call.updated?, Call.deleted, eq_comm]
  | updateExchange exchange =>
    obtain ⟨-, rfl⟩ := changing_eq_ok.mp hanswer
    simp [has_writeExchange, Call.Writes, Call.created?, Call.updated?, Call.deleted, eq_comm]
  | deleteExchange id =>
    obtain ⟨-, rfl⟩ := changing_eq_ok.mp hanswer
    simp [has_dropExchange, Call.Writes, Call.created?, Call.updated?, Call.deleted]
  | createDebt debt =>
    cases hanswer
    simp [has_writeDebt, Call.Writes, Call.created?, Call.updated?, Call.deleted, eq_comm]
  | updateDebt debt =>
    obtain ⟨-, rfl⟩ := changing_eq_ok.mp hanswer
    simp [has_writeDebt, Call.Writes, Call.created?, Call.updated?, Call.deleted, eq_comm]
  | deleteDebt id =>
    obtain ⟨-, rfl⟩ := changing_eq_ok.mp hanswer
    simp [has_dropDebt, Call.Writes, Call.created?, Call.updated?, Call.deleted]
  | _ =>
    -- What only reads leaves the unit as it is.
    cases hanswer
    simp [Call.Writes, Call.created?, Call.updated?, Call.deleted]

/-- A call that is refused leaves the unit as it was. -/
theorem eq_of_answer_error {unit last : MemoryUnit} {request : Call} {cause : LedgerError}
    (hanswer : unit.answer request = (.error cause, last)) : last = unit := by
  have hchanging : ∀ {present : Bool} {missing : LedgerError} {changed : MemoryUnit},
      changing present missing unit changed = (.error cause, last) → last = unit := by
    intro present missing changed h
    cases present with
    | true => cases h
    | false => exact (Prod.mk.inj h).2.symm
  cases request with
  | createBalance balance =>
    simp only [answer, createBalance] at hanswer
    split at hanswer
    · exact (Prod.mk.inj hanswer).2.symm
    · cases hanswer
  | updateBalance balance =>
    simp only [answer, updateBalance] at hanswer
    split at hanswer
    · exact (Prod.mk.inj hanswer).2.symm
    · split at hanswer
      · cases hanswer
      · exact (Prod.mk.inj hanswer).2.symm
  | updateDebtor debtor =>
    simp only [answer, updateDebtor] at hanswer
    split at hanswer
    · exact (Prod.mk.inj hanswer).2.symm
    · split at hanswer
      · cases hanswer
      · exact (Prod.mk.inj hanswer).2.symm
  | updateRecord _ | deleteRecord _ | updateExchange _ | deleteExchange _ | updateDebt _
  | deleteDebt _ => exact hchanging hanswer
  | _ => cases hanswer

/-! ## What a commit publishes -/

theorem row?_publish_of_has (shared : Tables) (hhas : unit.writes.Has name) :
    (unit.publish shared).row? name = unit.working.row? name := by
  cases name with
  | balance id => exact (unit.find?_publish_balances shared id).trans (if_pos hhas)
  | record id => exact (unit.find?_publish_records shared id).trans (if_pos hhas)
  | exchange id => exact (unit.find?_publish_exchanges shared id).trans (if_pos hhas)
  | debtor id => exact (unit.find?_publish_debtors shared id).trans (if_pos hhas)
  | debt id => exact (unit.find?_publish_debts shared id).trans (if_pos hhas)

theorem row?_publish_of_not_has (shared : Tables) (hhas : ¬unit.writes.Has name) :
    (unit.publish shared).row? name = shared.row? name := by
  cases name with
  | balance id => exact (unit.find?_publish_balances shared id).trans (if_neg hhas)
  | record id => exact (unit.find?_publish_records shared id).trans (if_neg hhas)
  | exchange id => exact (unit.find?_publish_exchanges shared id).trans (if_neg hhas)
  | debtor id => exact (unit.find?_publish_debtors shared id).trans (if_neg hhas)
  | debt id => exact (unit.find?_publish_debts shared id).trans (if_neg hhas)

end MemoryUnit

/-! ## What is noted of balances and debtors -/

/-- What the unit found at its first write of a balance or debtor. -/
def WriteSet.Notes (writes : WriteSet) (base : Base) : RowName → Prop
  | .balance id => (id, base) ∈ writes.balances
  | .debtor id => (id, base) ∈ writes.debtors
  | _ => False

theorem WriteSet.has_iff_notes {writes : WriteSet} {name : RowName}
    (hversioned : name.isVersioned = true) :
    writes.Has name ↔ ∃ base, writes.Notes base name := by
  cases name with
  | balance id | debtor id => simp [Has, Notes, balanceIds, debtorIds]
  | _ => cases hversioned

theorem WriteSet.Notes.isVersioned {writes : WriteSet} {base : Base} {name : RowName}
    (hnotes : writes.Notes base name) : name.isVersioned = true := by
  cases name with
  | balance id | debtor id => rfl
  | _ => exact hnotes.elim

theorem Call.isVersioned_of_deleted {tables : Tables} {request : Call} {name : RowName}
    (hdeleted : name ∈ request.deleted tables) : name.isVersioned = false := by
  cases request with
  | deleteRecord id | deleteExchange id | deleteDebt id =>
    rw [List.mem_singleton.mp hdeleted]
    rfl
  | deleteRecordsForExchange id | deleteRecordsForDebt id =>
    obtain ⟨record, -, rfl⟩ := List.mem_map.mp hdeleted
    rfl
  | _ => cases hdeleted

namespace MemoryUnit

variable {unit last : MemoryUnit} {name : RowName} {base : Base}

theorem balances_dropRecords (ids : List RecordId) :
    (ids.foldl dropRecord unit).working.balances = unit.working.balances ∧
      (ids.foldl dropRecord unit).working.debtors = unit.working.debtors := by
  induction ids generalizing unit with
  | nil => exact ⟨rfl, rfl⟩
  | cons id rest ih => exact @ih (unit.dropRecord id)

theorem writes_dropRecords (ids : List RecordId) :
    (ids.foldl dropRecord unit).writes.balances = unit.writes.balances ∧
      (ids.foldl dropRecord unit).writes.debtors = unit.writes.debtors := by
  induction ids generalizing unit with
  | nil => exact ⟨rfl, rfl⟩
  | cons id rest ih => exact @ih (unit.dropRecord id)

/-- What an answered call does to the rows that carry versions: it creates or updates one, or
leaves them and what is noted of them alone. -/
inductive VersionedStep (unit : MemoryUnit) : Call → MemoryUnit → Prop
  | createsBalance (balance : Balance)
      (hfree : unit.working.balanceFor balance.userId balance.currency = none) :
      VersionedStep unit (.createBalance balance) (unit.writeBalance balance .created)
  | updatesBalance (balance current : Balance)
      (hfind : unit.working.balances.find? balance.id = some current) :
      VersionedStep unit (.updateBalance balance)
        (unit.writeBalance { balance with version := balance.version + 1 }
          (.stored current.version))
  | createsDebtor (debtor : Debtor) :
      VersionedStep unit (.createDebtor debtor) (unit.writeDebtor debtor .created)
  | updatesDebtor (debtor current : Debtor)
      (hfind : unit.working.debtors.find? debtor.id = some current) :
      VersionedStep unit (.updateDebtor debtor)
        (unit.writeDebtor { debtor with version := debtor.version + 1 }
          (.stored current.version))
  | leaves {request : Call} {last : MemoryUnit}
      (hcreated : ∀ name, request.created? = some name → name.isVersioned = false)
      (hbalances : last.working.balances = unit.working.balances ∧
        last.writes.balances = unit.writes.balances)
      (hdebtors : last.working.debtors = unit.working.debtors ∧
        last.writes.debtors = unit.writes.debtors) :
      VersionedStep unit request last

theorem versionedStep_answer {request : Call} {answer : request.Answer}
    (hanswer : unit.answer request = (.ok answer, last)) : unit.VersionedStep request last := by
  cases request with
  | createBalance balance =>
    obtain ⟨hfree, rfl⟩ := createBalance_eq_ok.mp hanswer
    exact .createsBalance balance hfree
  | updateBalance balance =>
    obtain ⟨current, hfind, -, rfl, rfl⟩ := updateBalance_eq_ok.mp hanswer
    exact .updatesBalance balance current hfind
  | createDebtor debtor =>
    cases hanswer
    exact .createsDebtor debtor
  | updateDebtor debtor =>
    obtain ⟨current, hfind, -, rfl, rfl⟩ := updateDebtor_eq_ok.mp hanswer
    exact .updatesDebtor debtor current hfind
  | deleteRecordsForExchange id | deleteRecordsForDebt id =>
    cases hanswer
    exact .leaves nofun ⟨(balances_dropRecords _).1, (writes_dropRecords _).1⟩
      ⟨(balances_dropRecords _).2, (writes_dropRecords _).2⟩
  | updateRecord _ | deleteRecord _ | updateExchange _ | deleteExchange _ | updateDebt _
  | deleteDebt _ =>
    obtain ⟨-, rfl⟩ := changing_eq_ok.mp hanswer
    exact .leaves nofun ⟨rfl, rfl⟩ ⟨rfl, rfl⟩
  | createRecord _ | createExchange _ | createDebt _ =>
    cases hanswer
    refine .leaves ?_ ⟨rfl, rfl⟩ ⟨rfl, rfl⟩
    rintro name ⟨⟩
    rfl
  | _ =>
    cases hanswer
    exact .leaves nofun ⟨rfl, rfl⟩ ⟨rfl, rfl⟩

theorem row?_congr (hversioned : name.isVersioned = true)
    (hbalances : last.working.balances = unit.working.balances)
    (hdebtors : last.working.debtors = unit.working.debtors) :
    last.working.row? name = unit.working.row? name := by
  cases name with
  | balance id => simp only [Tables.row?, hbalances]
  | debtor id => simp only [Tables.row?, hdebtors]
  | _ => cases hversioned

theorem isSome_row?_writeBalance {balance : Balance} :
    ((unit.writeBalance balance base).working.row? name).isSome = true ↔
      (unit.working.row? name).isSome = true ∨ name = .balance balance.id := by
  cases name with
  | balance id =>
    simp only [Tables.row?, writeBalance, Table.find?_insert, RowName.balance.injEq,
      show Keyed.key balance = balance.id from rfl]
    by_cases hid : id = balance.id
    · simp [hid]
    · simp [hid]
  | _ => simp [Tables.row?, writeBalance]

theorem isSome_row?_writeDebtor {debtor : Debtor} :
    ((unit.writeDebtor debtor base).working.row? name).isSome = true ↔
      (unit.working.row? name).isSome = true ∨ name = .debtor debtor.id := by
  cases name with
  | debtor id =>
    simp only [Tables.row?, writeDebtor, Table.find?_insert, RowName.debtor.injEq,
      show Keyed.key debtor = debtor.id from rfl]
    by_cases hid : id = debtor.id
    · simp [hid]
    · simp [hid]
  | _ => simp [Tables.row?, writeDebtor]

/-- Balances and debtors come by creation only, and they stay. -/
theorem isSome_row?_answer {request : Call} {answer : request.Answer}
    (hversioned : name.isVersioned = true)
    (hanswer : unit.answer request = (.ok answer, last)) :
    (last.working.row? name).isSome = true ↔
      (unit.working.row? name).isSome = true ∨ request.created? = some name := by
  cases versionedStep_answer hanswer with
  | createsBalance balance hfree =>
    rw [isSome_row?_writeBalance, Call.created?, Option.some.injEq, @eq_comm _ _ name]
  | createsDebtor debtor =>
    rw [isSome_row?_writeDebtor, Call.created?, Option.some.injEq, @eq_comm _ _ name]
  | updatesBalance balance current hfind =>
    rw [isSome_row?_writeBalance]
    refine ⟨?_, .imp_right nofun⟩
    rintro (h | rfl)
    · exact .inl h
    · exact .inl (Option.isSome_iff_exists.mpr ⟨current, hfind⟩)
  | updatesDebtor debtor current hfind =>
    rw [isSome_row?_writeDebtor]
    refine ⟨?_, .imp_right nofun⟩
    rintro (h | rfl)
    · exact .inl h
    · exact .inl (Option.isSome_iff_exists.mpr ⟨current, hfind⟩)
  | leaves hcreated hbalances hdebtors =>
    rw [row?_congr hversioned hbalances.1 hdebtors.1]
    refine (or_iff_left fun h => ?_).symm
    rw [hcreated name h] at hversioned
    cases hversioned

theorem notes_writeBalance {balance : Balance} {noted : Base} :
    (unit.writeBalance balance base).writes.Notes noted name ↔
      unit.writes.Notes noted name ∨
        noted = base ∧ name = .balance balance.id ∧ ¬unit.writes.Has name := by
  cases name with
  | balance id =>
    simp only [WriteSet.Notes, WriteSet.Has, WriteSet.balanceIds, writeBalance,
      WriteSet.mem_touch, Prod.mk.injEq, RowName.balance.injEq]
    constructor
    · rintro (h | ⟨h, rfl, rfl⟩)
      · exact .inl h
      · exact .inr ⟨rfl, rfl, h⟩
    · rintro (h | ⟨rfl, rfl, h⟩)
      · exact .inl h
      · exact .inr ⟨h, rfl, rfl⟩
  | _ => simp [WriteSet.Notes, writeBalance]

theorem notes_writeDebtor {debtor : Debtor} {noted : Base} :
    (unit.writeDebtor debtor base).writes.Notes noted name ↔
      unit.writes.Notes noted name ∨
        noted = base ∧ name = .debtor debtor.id ∧ ¬unit.writes.Has name := by
  cases name with
  | debtor id =>
    simp only [WriteSet.Notes, WriteSet.Has, WriteSet.debtorIds, writeDebtor,
      WriteSet.mem_touch, Prod.mk.injEq, RowName.debtor.injEq]
    constructor
    · rintro (h | ⟨h, rfl, rfl⟩)
      · exact .inl h
      · exact .inr ⟨rfl, rfl, h⟩
    · rintro (h | ⟨rfl, rfl, h⟩)
      · exact .inl h
      · exact .inr ⟨h, rfl, rfl⟩
  | _ => simp [WriteSet.Notes, writeDebtor]

/-- Only balances and debtors have something noted. -/
theorem notes_congr (hbalances : last.writes.balances = unit.writes.balances)
    (hdebtors : last.writes.debtors = unit.writes.debtors) :
    last.writes.Notes base name ↔ unit.writes.Notes base name := by
  cases name <;> simp [WriteSet.Notes, hbalances, hdebtors]

/-- A balance or debtor is noted as created if a call created it. -/
theorem notes_created_answer {request : Call} {answer : request.Answer}
    (hversioned : name.isVersioned = true)
    (hanswer : unit.answer request = (.ok answer, last))
    (hnew : request.created? = some name → ¬unit.writes.Has name) :
    last.writes.Notes .created name ↔
      unit.writes.Notes .created name ∨ request.created? = some name := by
  cases versionedStep_answer hanswer with
  | createsBalance balance hfree =>
    rw [notes_writeBalance, Call.created?, Option.some.injEq, @eq_comm _ _ name]
    simp only [true_and]
    exact or_congr_right (and_iff_left_of_imp fun h => hnew (congrArg some h.symm))
  | createsDebtor debtor =>
    rw [notes_writeDebtor, Call.created?, Option.some.injEq, @eq_comm _ _ name]
    simp only [true_and]
    exact or_congr_right (and_iff_left_of_imp fun h => hnew (congrArg some h.symm))
  | updatesBalance balance current hfind => simp [notes_writeBalance, Call.created?]
  | updatesDebtor debtor current hfind => simp [notes_writeDebtor, Call.created?]
  | leaves hcreated hbalances hdebtors =>
    rw [notes_congr hbalances.2 hdebtors.2]
    refine (or_iff_left fun h => ?_).symm
    rw [hcreated name h] at hversioned
    cases hversioned

namespace Tracks

variable {snapshot : Tables}

/-- What is noted of a row is what the snapshot has of it. -/
theorem base_of_notes (htracks : Tracks snapshot unit) (hnotes : unit.writes.Notes base name) :
    base = .of ((snapshot.row? name).map name.version) := by
  cases name with
  | balance id => exact htracks.balances.base id base hnotes
  | debtor id => exact htracks.debtors.base id base hnotes
  | _ => exact hnotes.elim

/-- A row that the snapshot has and that is written has a higher version now. -/
theorem lt_of_notes (htracks : Tracks snapshot unit) {found : Int64}
    (hnotes : unit.writes.Notes (.stored found) name) :
    ∃ row, unit.working.row? name = some row ∧ found < name.version row := by
  cases name with
  | balance id => exact htracks.balances.raised id found hnotes
  | debtor id => exact htracks.debtors.raised id found hnotes
  | _ => exact hnotes.elim

end Tracks

/-! ## The check of a commit -/

/-- No other stored balance has the owner and currency that a created one has. -/
def Unrivalled (unit : MemoryUnit) (shared : Tables) (id : BalanceId) : Prop :=
  ∃ own, unit.working.balances.find? id = some own ∧
    ∀ other ∈ shared.balances.rows, other.id ≠ id →
      ¬(other.userId = own.userId ∧ other.currency = own.currency)

theorem check_eq_ok_iff_notes {shared : Tables}
    (hthere : ∀ id, unit.writes.Notes .created (.balance id) →
      ∃ own, unit.working.balances.find? id = some own) :
    unit.check shared = .ok () ↔
      (∀ name version, unit.writes.Notes (.stored version) name →
        (shared.row? name).map name.version = some version) ∧
      ∀ id, unit.writes.Notes .created (.balance id) → unit.Unrivalled shared id := by
  rw [check_eq_ok_iff]
  constructor
  · rintro ⟨hbalances, hdebtors⟩
    constructor
    · intro name version hnotes
      cases name with
      | balance id => exact checkBalance_stored_eq_ok.mp (hbalances _ hnotes)
      | debtor id => exact checkDebtor_stored_eq_ok.mp (hdebtors _ hnotes)
      | _ => exact hnotes.elim
    · intro id hnotes
      obtain ⟨own, hown⟩ := hthere id hnotes
      have hid : own.id = id := Table.key_of_find? hown
      have hfree := (checkBalance_created_eq_ok hown).mp (hbalances _ hnotes)
      exact ⟨own, hown, fun other hother hne hpair =>
        hne ((hfree other hother hpair.1 hpair.2).trans hid)⟩
  · rintro ⟨hstored, hcreated⟩
    constructor
    · rintro ⟨id, base⟩ hentry
      cases base with
      | stored version =>
        exact checkBalance_stored_eq_ok.mpr (hstored (.balance id) version hentry)
      | created =>
        obtain ⟨own, hown, hfree⟩ := hcreated id hentry
        have hid : own.id = id := Table.key_of_find? hown
        rw [checkBalance_created_eq_ok hown]
        intro other hother huser hcurrency
        by_contra hne
        exact hfree other hother (hid ▸ hne) ⟨huser, hcurrency⟩
    · rintro ⟨id, base⟩ hentry
      cases base with
      | stored version =>
        exact checkDebtor_stored_eq_ok.mpr (hstored (.debtor id) version hentry)
      | created => rfl

end MemoryUnit

end CashLedger
