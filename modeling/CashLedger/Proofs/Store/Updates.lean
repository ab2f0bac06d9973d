import CashLedger.Proofs.Engine.Grounds
import CashLedger.Proofs.Store.Unit
import CashLedger.Store.Postgres

/-!
# Updates in both stores

In memory an update puts a whole row in the place of another; in a database it sets some of
the columns of the row that is there.  Both come to the same, since the row that is put is
one that was found, with other values only in what the database sets.
-/

namespace CashLedger

open Sql
open Sql.Column (toCell)
open Keyed (key)

/-! ## Updates of rows -/

namespace Sql

namespace Row

/-- A row with new values in some of its columns. -/
def set (row : Row) (changes : List (String × Cell)) : Row :=
  row.map fun (name, cell) => (name, (changes.lookup name).getD cell)

def id? (row : Row) : Option Uuid :=
  match row.lookup "id" with
  | some (.uuid uuid) => some uuid
  | _ => none

def version? (row : Row) : Option Int64 := (row.lookup "version").bind Column.ofCell?

theorem lookup_set (row : Row) (changes : List (String × Cell)) (name : String) :
    (row.set changes).lookup name =
      (row.lookup name).map fun cell => (changes.lookup name).getD cell := by
  induction row with
  | nil => rfl
  | cons column rest ih =>
    rw [set, List.map_cons, List.lookup_cons, List.lookup_cons]
    cases hname : name == column.1 with
    | true => simp [beq_iff_eq.mp hname]
    | false => exact ih

theorem lookup_set_of_notMem {row : Row} {changes : List (String × Cell)} {name : String}
    (hname : name ∉ changes.map Prod.fst) : (row.set changes).lookup name = row.lookup name := by
  have hnone : changes.lookup name = none := by
    rw [List.lookup_eq_none_iff]
    intro change hmem
    rw [bne_iff_ne]
    rintro rfl
    exact hname (List.mem_map_of_mem hmem)
  rw [lookup_set, hnone]
  exact Option.map_id'

theorem set_append (row : Row) (changes more : List (String × Cell)) :
    row.set (more ++ changes) = (row.set changes).set more := by
  rw [set, set, set, List.map_map]
  refine List.map_congr_left fun column _ => ?_
  simp only [Function.comp, List.lookup_append]
  cases more.lookup column.1 <;> rfl

end Row

/-- What an update makes of a row, if it is the row that is named and has the version that
is asked for.  No version follows the greatest. -/
def Statement.updated? : Statement → Row → Option Row
  | update _ id changes, row => if row.id? = some id then some (row.set changes) else none
  | revise _ id version changes, row =>
    if row.id? = some id ∧ row.version? = some version then
      (Amount.add? version 1).map fun next => row.set ([("version", toCell next)] ++ changes)
    else none
  | _, _ => none

/-- The columns that an update sets. -/
def Statement.changes : Statement → List (String × Cell)
  | update _ _ changes | revise _ _ _ changes => changes
  | _ => []

end Sql

/-! ## Kinds of rows -/

/-- How the rows of a kind are updated in memory and in a database. -/
structure RowKind (α : Type) {κ : Type} [Keyed α κ] [DecidableEq κ] where
  relation : Relation
  uuid : κ → Uuid
  values : α → List Cell
  version? : α → Option Int64
  changes : α → List (String × Cell)
  /-- A row in which an update has put its own values for what it sets. -/
  onto : α → α → α
  /-- The row that is stored for an update. -/
  raised : α → α
  table : Tables → Table α
  update : α → Call
  uuid_injective : Function.Injective uuid
  isSome_version? : ∀ row other, (version? row).isSome = (version? other).isSome
  key_onto : ∀ after before, key (onto after before) = key before
  key_raised : ∀ row, key (raised row) = key row
  version?_onto : ∀ after before, version? (onto after before) = version? before
  onto_onto : ∀ last after before, onto last (onto after before) = onto last before
  id?_row : ∀ row, (relation.row (values row)).id? = some (uuid (key row))
  version?_row : ∀ row, (relation.row (values row)).version? = version? row
  lookup_row : ∀ row, ∀ change ∈ changes row,
    (relation.row (values row)).lookup change.1 = some change.2
  row_onto : ∀ after before,
    relation.row (values (onto after before)) = (relation.row (values before)).set (changes after)
  row_raised : ∀ row, relation.row (values (raised row)) =
    (relation.row (values row)).set
      ((version? row).toList.map fun version => ("version", toCell (version + 1)))
  statement_eq : ∀ after, (Postgres.query (update after)).statement =
    match version? after with
    | none => .update relation (uuid (key after)) (changes after)
    | some version => .revise relation (uuid (key after)) version (changes after)
  version?_update : ∀ row, (update row).version? = version? row
  answer_eq : ∀ {unit : MemoryUnit} {after current : α},
    (table unit.working).find? (key after) = some current →
      (version? current = version? after → ∃ answer written,
        unit.answer (update after) = (.ok answer, written) ∧
          table written.working = (table unit.working).insert (raised after)) ∧
      (version? current ≠ version? after →
        ∃ cause, unit.answer (update after) = (.error cause, unit))

theorem Amount.add?_one {version : Int64} (hroom : version ≠ Int64.maxValue) :
    add? version 1 = some (version + 1) := by
  rw [add?_eq_some_iff, Int64.toInt_add_one_of_ne_max hroom, Int64.toInt_one]

theorem Id.uuid_injective {kind : IdKind} : Function.Injective (Id.uuid : Id kind → Uuid) :=
  fun ⟨_⟩ ⟨_⟩ heq => congrArg Id.mk heq

namespace RowKind

theorem updateBalance_eq {unit : MemoryUnit} {after current : Balance}
    (hfound : unit.working.balances.find? after.id = some current) :
    (some current.version = some after.version → ∃ answer written,
      unit.answer (.updateBalance after) = (.ok answer, written) ∧
        written.working.balances = unit.working.balances.insert after.bump) ∧
    (some current.version ≠ some after.version →
      ∃ cause, unit.answer (.updateBalance after) = (.error cause, unit)) := by
  simp only [MemoryUnit.answer, MemoryUnit.updateBalance, hfound]
  refine ⟨fun hversion => ?_, fun hversion => ?_⟩
  · rw [if_pos (Option.some.inj hversion)]
    exact ⟨_, _, rfl, rfl⟩
  · rw [if_neg fun heq => hversion (congrArg some heq)]
    exact ⟨_, rfl⟩

theorem updateDebtor_eq {unit : MemoryUnit} {after current : Debtor}
    (hfound : unit.working.debtors.find? after.id = some current) :
    (some current.version = some after.version → ∃ answer written,
      unit.answer (.updateDebtor after) = (.ok answer, written) ∧
        written.working.debtors =
          unit.working.debtors.insert { after with version := after.version + 1 }) ∧
    (some current.version ≠ some after.version →
      ∃ cause, unit.answer (.updateDebtor after) = (.error cause, unit)) := by
  simp only [MemoryUnit.answer, MemoryUnit.updateDebtor, hfound]
  refine ⟨fun hversion => ?_, fun hversion => ?_⟩
  · rw [if_pos (Option.some.inj hversion)]
    exact ⟨_, _, rfl, rfl⟩
  · rw [if_neg fun heq => hversion (congrArg some heq)]
    exact ⟨_, rfl⟩

/-- A row without a version is there or not. -/
theorem changing_eq {α κ : Type} [Keyed α κ] [DecidableEq κ] {table : Table α} {id : κ}
    {current : α} {missing : LedgerError} {unit changed : MemoryUnit}
    (hfound : table.find? id = some current) :
    MemoryUnit.changing (table.contains id) missing unit changed = (.ok (), changed) := by
  rw [MemoryUnit.changing, Table.contains, hfound]
  rfl

def balances : RowKind Balance where
  relation := .balances
  uuid := Id.uuid
  values := Row.balanceValues
  version? balance := some balance.version
  changes := Row.balanceChanges
  onto := Balance.onto
  raised := Balance.bump
  table := Tables.balances
  update := .updateBalance
  uuid_injective := Id.uuid_injective
  isSome_version? _ _ := rfl
  key_onto _ _ := rfl
  key_raised _ := rfl
  version?_onto _ _ := rfl
  onto_onto _ _ _ := rfl
  id?_row _ := rfl
  version?_row _ := rfl
  lookup_row _ := List.forall_iff_forall_mem.mp ⟨rfl, rfl, rfl, rfl⟩
  row_onto _ _ := rfl
  row_raised _ := rfl
  statement_eq _ := rfl
  version?_update _ := rfl
  answer_eq := updateBalance_eq

def records : RowKind Record where
  relation := .records
  uuid := Id.uuid
  values := Row.recordValues
  version? _ := none
  changes := Row.recordChanges
  onto := Record.onto
  raised record := record
  table := Tables.records
  update := .updateRecord
  uuid_injective := Id.uuid_injective
  isSome_version? _ _ := rfl
  key_onto _ _ := rfl
  key_raised _ := rfl
  version?_onto _ _ := rfl
  onto_onto _ _ _ := rfl
  id?_row _ := rfl
  version?_row _ := rfl
  lookup_row _ := List.forall_iff_forall_mem.mp ⟨rfl, rfl, rfl, rfl, rfl, rfl⟩
  row_onto _ _ := rfl
  row_raised _ := rfl
  statement_eq _ := rfl
  version?_update _ := rfl
  answer_eq hfound := ⟨fun _ => ⟨(), _, changing_eq hfound, rfl⟩, fun hne => (hne rfl).elim⟩

def exchanges : RowKind Exchange where
  relation := .exchanges
  uuid := Id.uuid
  values := Row.exchangeValues
  version? _ := none
  changes := Row.exchangeChanges
  onto := Exchange.onto
  raised exchange := exchange
  table := Tables.exchanges
  update := .updateExchange
  uuid_injective := Id.uuid_injective
  isSome_version? _ _ := rfl
  key_onto _ _ := rfl
  key_raised _ := rfl
  version?_onto _ _ := rfl
  onto_onto _ _ _ := rfl
  id?_row _ := rfl
  version?_row _ := rfl
  lookup_row _ := List.forall_iff_forall_mem.mp ⟨rfl, rfl, rfl, rfl, rfl, rfl⟩
  row_onto _ _ := rfl
  row_raised _ := rfl
  statement_eq _ := rfl
  version?_update _ := rfl
  answer_eq hfound := ⟨fun _ => ⟨(), _, changing_eq hfound, rfl⟩, fun hne => (hne rfl).elim⟩

def debtors : RowKind Debtor where
  relation := .debtors
  uuid := Id.uuid
  values := Row.debtorValues
  version? debtor := some debtor.version
  changes := Row.debtorChanges
  onto := Debtor.onto
  raised debtor := { debtor with version := debtor.version + 1 }
  table := Tables.debtors
  update := .updateDebtor
  uuid_injective := Id.uuid_injective
  isSome_version? _ _ := rfl
  key_onto _ _ := rfl
  key_raised _ := rfl
  version?_onto _ _ := rfl
  onto_onto _ _ _ := rfl
  id?_row _ := rfl
  version?_row _ := rfl
  lookup_row _ := List.forall_iff_forall_mem.mp ⟨rfl, rfl, rfl, rfl⟩
  row_onto _ _ := rfl
  row_raised _ := rfl
  statement_eq _ := rfl
  version?_update _ := rfl
  answer_eq := updateDebtor_eq

def debts : RowKind Debt where
  relation := .debts
  uuid := Id.uuid
  values := Row.debtValues
  version? _ := none
  changes := Row.debtChanges
  onto := Debt.onto
  raised debt := debt
  table := Tables.debts
  update := .updateDebt
  uuid_injective := Id.uuid_injective
  isSome_version? _ _ := rfl
  key_onto _ _ := rfl
  key_raised _ := rfl
  version?_onto _ _ := rfl
  onto_onto _ _ _ := rfl
  id?_row _ := rfl
  version?_row _ := rfl
  lookup_row _ := List.forall_iff_forall_mem.mp ⟨rfl, rfl, rfl, rfl, rfl, rfl, rfl⟩
  row_onto _ _ := rfl
  row_raised _ := rfl
  statement_eq _ := rfl
  version?_update _ := rfl
  answer_eq hfound := ⟨fun _ => ⟨(), _, changing_eq hfound, rfl⟩, fun hne => (hne rfl).elim⟩

variable {α κ : Type} [Keyed α κ] [DecidableEq κ] (kind : RowKind α)

/-- A row as the database holds it. -/
def row (value : α) : Row := kind.relation.row (kind.values value)

/-- What is sent for an update. -/
def statement (after : α) : Statement := (Postgres.query (kind.update after)).statement

/-- What the two stores make of an update where they hold a row under its key: the same row,
or none if the row has another version or the last of all, at which the program stops. -/
structure Agree (unit : MemoryUnit) (current after : α) : Prop where
  replaced : kind.version? current = kind.version? after →
    kind.version? after ≠ some Int64.maxValue →
      unit.stops (kind.update after) = false ∧ ∃ answer written,
        unit.answer (kind.update after) = (.ok answer, written) ∧
          kind.table written.working = (kind.table unit.working).insert (kind.raised after)
  updated : kind.version? current = kind.version? after →
    kind.version? after ≠ some Int64.maxValue →
      (kind.statement after).updated? (kind.row current) = some (kind.row (kind.raised after))
  stopped : kind.version? current = kind.version? after →
    kind.version? after = some Int64.maxValue →
      unit.stops (kind.update after) = true ∧
        (kind.statement after).updated? (kind.row current) = none
  refused : kind.version? current ≠ kind.version? after →
    ∃ cause, unit.answer (kind.update after) = (.error cause, unit)
  missed : kind.version? current ≠ kind.version? after →
    (kind.statement after).updated? (kind.row current) = none

/-- The update of a row that was loaded is the same in both stores. -/
structure Persists (loaded after : α) : Prop where
  key_eq : key after = key loaded
  version?_eq : kind.version? after = kind.version? loaded
  onto_eq : kind.onto after loaded = after
  own : ∀ change ∈ (kind.statement after).changes,
    (kind.row after).lookup change.1 = some change.2
  kept : ∀ name ∉ (kind.statement after).changes.map Prod.fst,
    (kind.row after).lookup name = (kind.row loaded).lookup name
  /-- The row that the stores hold may differ from the one that was loaded in what updates
  set, and in its version. -/
  agree : ∀ (unit : MemoryUnit) (current : α),
    (kind.table unit.working).find? (key after) = some current →
    (kind.version? current = kind.version? loaded → kind.onto loaded current = loaded) →
      kind.Agree unit current after
  others : ∀ other, key other ≠ key after →
    (kind.statement after).updated? (kind.row other) = none

variable {kind} {loaded current after : α}

theorem changes_statement : (kind.statement after).changes = kind.changes after := by
  rw [statement, kind.statement_eq]
  cases kind.version? after <;> rfl

theorem lookup_of_onto (honto : kind.onto after loaded = after) {name : String}
    (hname : name ∉ (kind.changes after).map Prod.fst) :
    (kind.row after).lookup name = (kind.row loaded).lookup name := by
  have hrow := kind.row_onto after loaded
  rw [honto] at hrow
  rw [row, hrow, Row.lookup_set_of_notMem hname]
  rfl

/-- An update leaves the row that is stored for it. -/
theorem updated?_statement (hkey : key current = key after)
    (hversion : kind.version? current = kind.version? after)
    (honto : kind.onto after current = after)
    (hroom : kind.version? after ≠ some Int64.maxValue) :
    (kind.statement after).updated? (kind.row current) = some (kind.row (kind.raised after)) := by
  have hid := kind.id?_row current
  have hcurrent := kind.version?_row current
  have hset := kind.row_onto after current
  have hraised := kind.row_raised after
  rw [hkey] at hid
  rw [hversion] at hcurrent
  rw [honto] at hset
  rw [hset] at hraised
  rw [statement, kind.statement_eq, row, row, hraised]
  cases hafter : kind.version? after with
  | none => simp [Statement.updated?, hid, Row.set]
  | some version =>
    rw [hafter] at hcurrent
    have hnext := Amount.add?_one fun hmax => hroom (hafter.trans (congrArg some hmax))
    simp [Statement.updated?, hid, hcurrent, hnext, ← Row.set_append]

/-- A database has no next version either where the program stops. -/
theorem updated?_eq_none_of_max (hmax : kind.version? after = some Int64.maxValue) :
    (kind.statement after).updated? (kind.row current) = none := by
  have hlast : Amount.add? Int64.maxValue 1 = none := rfl
  rw [statement, kind.statement_eq, hmax]
  simp [Statement.updated?, hlast]

theorem hasRoom_update :
    (kind.update after).HasRoom ↔ kind.version? after ≠ some Int64.maxValue := by
  rw [Call.HasRoom, kind.version?_update]

theorem updated?_eq_none (hversion : kind.version? current ≠ kind.version? after) :
    (kind.statement after).updated? (kind.row current) = none := by
  have hcurrent : (kind.row current).version? = kind.version? current := kind.version?_row current
  have hboth := kind.isSome_version? current after
  rw [statement, kind.statement_eq]
  cases hafter : kind.version? after with
  | none =>
    rw [hafter] at hboth hversion
    exact absurd (Option.not_isSome_iff_eq_none.mp (by simp [hboth])) hversion
  | some version =>
    rw [hafter] at hversion
    exact if_neg fun hnamed => hversion (hcurrent.symm.trans hnamed.2)

theorem updated?_of_ne {other : α} (hkey : key other ≠ key after) :
    (kind.statement after).updated? (kind.row other) = none := by
  have hid : (kind.row other).id? = some (kind.uuid (key other)) := kind.id?_row other
  have hne : (kind.row other).id? ≠ some (kind.uuid (key after)) := by
    rw [hid]
    exact fun heq => hkey (kind.uuid_injective (Option.some.inj heq))
  rw [statement, kind.statement_eq]
  cases kind.version? after with
  | none => exact if_neg hne
  | some version => exact if_neg fun hnamed => hne hnamed.1

theorem agree_of_onto {unit : MemoryUnit}
    (hfound : (kind.table unit.working).find? (key after) = some current)
    (honto : kind.version? current = kind.version? after → kind.onto after current = after) :
    kind.Agree unit current after where
  replaced hversion hroom := by
    obtain ⟨answer, written, hanswer, htable⟩ := (kind.answer_eq hfound).1 hversion
    refine ⟨?_, answer, written, hanswer, htable⟩
    rw [← Bool.not_eq_true, MemoryUnit.stops_iff hanswer, not_not]
    exact hasRoom_update.mpr hroom
  updated hversion hroom :=
    updated?_statement (Table.find?_eq_some_iff.mp hfound).2 hversion (honto hversion) hroom
  stopped hversion hmax := by
    obtain ⟨answer, written, hanswer, -⟩ := (kind.answer_eq hfound).1 hversion
    refine ⟨(MemoryUnit.stops_iff hanswer).mpr fun hroom => ?_, updated?_eq_none_of_max hmax⟩
    exact hasRoom_update.mp hroom hmax
  refused := (kind.answer_eq hfound).2
  missed := updated?_eq_none

theorem persists_of_onto (honto : kind.onto after loaded = after) : kind.Persists loaded after where
  key_eq := by
    rw [← honto]
    exact kind.key_onto after loaded
  version?_eq := by
    rw [← honto]
    exact kind.version?_onto after loaded
  onto_eq := honto
  own change hmem := by
    rw [changes_statement] at hmem
    exact kind.lookup_row after change hmem
  kept name hname := by
    rw [changes_statement] at hname
    exact lookup_of_onto honto hname
  agree unit current hfound hloaded := by
    refine agree_of_onto hfound fun hversion => ?_
    have hsame : kind.version? after = kind.version? loaded := by
      rw [← honto]
      exact kind.version?_onto after loaded
    calc kind.onto after current = kind.onto after (kind.onto loaded current) :=
          (kind.onto_onto after loaded current).symm
      _ = kind.onto after loaded := by rw [hloaded (hversion.trans hsame)]
      _ = after := honto
  others _ := updated?_of_ne

end RowKind

/-! ## Updates of requests -/

/-- What is stored for an update comes from a row that was found before, a balance from the
one found just before, and both stores make the same of it. -/
def Call.Persists (past : List Answered) : Call → Prop
  | updateBalance after => ∃ earlier last loaded, past = earlier ++ [last] ∧
    last.Found loaded ∧ RowKind.balances.Persists loaded after
  | updateRecord after => ∃ answered ∈ past, ∃ loaded, answered.Lists loaded ∧
    RowKind.records.Persists loaded after
  | updateExchange after => ∃ id loaded, ⟨exchangeById id, some loaded⟩ ∈ past ∧
    RowKind.exchanges.Persists loaded after
  | updateDebtor after => ∃ id loaded, ⟨debtorById id, some loaded⟩ ∈ past ∧
    RowKind.debtors.Persists loaded after
  | updateDebt after => ∃ id loaded, ⟨debtById id, some loaded⟩ ∈ past ∧
    RowKind.debts.Persists loaded after
  | _ => True

theorem Call.persists {moves : List Answered → Int → Prop} {past : List Answered} {request : Call}
    (hrevises : request.Revises moves past) (hgrounded : request.Grounded past) :
    request.Persists past := by
  cases request with
  | updateBalance after =>
    obtain ⟨earlier, last, loaded, hpast, hfound, hrevised⟩ := hrevises
    exact ⟨earlier, last, loaded, hpast, hfound, RowKind.persists_of_onto hrevised.onto_eq⟩
  | updateRecord after =>
    obtain ⟨-, answered, hmem, loaded, hlists, honto⟩ := hgrounded
    exact ⟨answered, hmem, loaded, hlists, RowKind.persists_of_onto honto⟩
  | updateExchange after =>
    obtain ⟨id, loaded, hmem, honto⟩ := hgrounded
    exact ⟨id, loaded, hmem, RowKind.persists_of_onto honto⟩
  | updateDebtor after =>
    obtain ⟨id, loaded, change, hmem, -, hrevised⟩ := hrevises
    exact ⟨id, loaded, hmem, RowKind.persists_of_onto hrevised.onto_eq⟩
  | updateDebt after =>
    obtain ⟨id, loaded, hmem, honto⟩ := hgrounded
    exact ⟨id, loaded, hmem, RowKind.persists_of_onto honto⟩
  | _ => trivial

namespace Request

variable {U W : Type}

/-- Whatever a store answers, each update that a request makes of it is of a row that the
store has shown, and leaves in a database what it leaves in memory. -/
theorem updates_persist (limits : Limits) (request : Request) (backend : Backend W U)
    (world : W) :
    ∃ contacts,
      (request.operation limits).run backend.recorded ⟨world, []⟩ =
        (((request.operation limits).run backend world).1,
          ⟨((request.operation limits).run backend world).2, contacts⟩) ∧
      ∀ {before after : List Contact} {call : Call} {outcome : Except LedgerError call.Answer},
        contacts = before ++ .call call outcome :: after →
          ∃ past, before = .begin (.ok ()) :: past.map Answered.contact ∧ call.Persists past := by
  have hplain := backend.recorded_refines.run_operation (request.operation limits) ⟨world, []⟩
  refine ⟨((request.operation limits).run backend.recorded ⟨world, []⟩).2.contacts, ?_, ?_⟩
  · rw [hplain]
    rfl
  · intro before after call outcome hsplit
    have hconduct := Operation.conduct backend world (request.onlyReads limits)
    have hobeys := (request.revises limits).and (request.grounded limits)
    obtain ⟨past, hbefore, ⟨hrevises, hgrounded⟩, -⟩ := hconduct.rule_of_split hobeys hsplit
    exact ⟨past, hbefore, Call.persists hrevises hgrounded⟩

end Request

end CashLedger
