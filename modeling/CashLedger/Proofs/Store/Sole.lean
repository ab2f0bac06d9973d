import CashLedger.Proofs.Consistent
import CashLedger.Proofs.Store.Accounts
import CashLedger.Proofs.Store.Twins
import CashLedger.Proofs.Store.Unit

/-!
# Units alone on their tables

Alone on the tables that it was opened on, a unit that opens no balance can always be
committed, for it finds every version there that it has noted.  If it writes rows of one
user only, it leaves the rows of all others as they were.
-/

namespace CashLedger

open Keyed (key)
open Owned (owner)

namespace Tables.AgreeWhere

variable {chosen : UserId → Prop} {left right : Tables}

theorem refl (tables : Tables) : tables.AgreeWhere chosen tables where
  users _ _ := rfl
  balances := .refl _
  records := .refl _
  exchanges := .refl _
  debtors := .refl _
  debts := .refl _

theorem of_same (hagree : left.AgreeWhere chosen right) {after : Tables}
    (hsame : after.Same right) : left.AgreeWhere chosen after where
  users id hid := by rw [hagree.users id hid, hsame.users]
  balances row hrow := (hagree.balances row hrow).trans hsame.balances.mem_iff.symm
  records row hrow := (hagree.records row hrow).trans hsame.records.mem_iff.symm
  exchanges row hrow := (hagree.exchanges row hrow).trans hsame.exchanges.mem_iff.symm
  debtors row hrow := (hagree.debtors row hrow).trans hsame.debtors.mem_iff.symm
  debts row hrow := (hagree.debts row hrow).trans hsame.debts.mem_iff.symm

end Tables.AgreeWhere

namespace Table

variable {α κ : Type} [Keyed α κ] [DecidableEq κ] {version : α → Int64}
  {touched : List (κ × Base)} {before after : Table α}

/-- The version that is noted of a row is the one that it had. -/
def Stamped (version : α → Int64) (touched : List (κ × Base)) (before : Table α) : Prop :=
  ∀ k found, (k, .stored found) ∈ touched → (before.find? k).map version = some found

theorem Stamped.touch_created (hstamped : before.Stamped version touched) (k : κ) :
    before.Stamped version (WriteSet.touch touched k .created) := by
  intro other found hmem
  rcases WriteSet.mem_touch.mp hmem with hmem | ⟨-, heq⟩
  · exact hstamped other found hmem
  · cases heq

theorem Stamped.touch_stored (hstamped : before.Stamped version touched)
    (hunwritten : Unwritten (touched.map Prod.fst) before after) {k : κ} {current : α}
    (hfind : after.find? k = some current) :
    before.Stamped version (WriteSet.touch touched k (.stored (version current))) := by
  intro other found hmem
  rcases WriteSet.mem_touch.mp hmem with hmem | ⟨hfirst, heq⟩
  · exact hstamped other found hmem
  · cases heq
    rw [← hunwritten _ hfirst, hfind]
    rfl

theorem Unwritten.touch (hunwritten : Unwritten (touched.map Prod.fst) before after) (row : α)
    (base : Base) :
    Unwritten ((WriteSet.touch touched (key row) base).map Prod.fst) before
      (after.insert row) := by
  intro k hk
  rw [WriteSet.mem_map_fst_touch, not_or] at hk
  rw [find?_insert_of_ne _ hk.2, hunwritten k hk.1]

end Table

namespace MemoryUnit

/-- A unit that has opened no balance, and noted of each row the version that it had. -/
structure Lone (snapshot : Tables) (unit : MemoryUnit) : Prop where
  users : unit.working.users = snapshot.users
  balances : Table.Unwritten unit.writes.balanceIds snapshot.balances unit.working.balances
  records : Table.Unwritten unit.writes.records snapshot.records unit.working.records
  exchanges : Table.Unwritten unit.writes.exchanges snapshot.exchanges unit.working.exchanges
  debtors : Table.Unwritten unit.writes.debtorIds snapshot.debtors unit.working.debtors
  debts : Table.Unwritten unit.writes.debts snapshot.debts unit.working.debts
  opened : ∀ id, (id, .created) ∉ unit.writes.balances
  stamped : snapshot.balances.Stamped Balance.version unit.writes.balances
  stampedDebtors : snapshot.debtors.Stamped Debtor.version unit.writes.debtors

namespace Lone

variable {snapshot : Tables} {unit last : MemoryUnit}

theorem start (snapshot : Tables) : Lone snapshot ⟨snapshot, {}⟩ where
  users := rfl
  balances _ _ := rfl
  records _ _ := rfl
  exchanges _ _ := rfl
  debtors _ _ := rfl
  debts _ _ := rfl
  opened _ := List.not_mem_nil
  stamped _ _ hmem := by cases hmem
  stampedDebtors _ _ hmem := by cases hmem

theorem check (hlone : unit.Lone snapshot) : unit.check snapshot = .ok () := by
  rw [check_eq_ok_iff]
  constructor
  · rintro ⟨id, base⟩ hmem
    cases base with
    | created => exact absurd hmem (hlone.opened id)
    | stored version => exact checkBalance_stored_eq_ok.mpr (hlone.stamped id version hmem)
  · rintro ⟨id, base⟩ hmem
    cases base with
    | created => rfl
    | stored version =>
      exact checkDebtor_stored_eq_ok.mpr (hlone.stampedDebtors id version hmem)

theorem published (hlone : unit.Lone snapshot) : (unit.publish snapshot).Same unit.working :=
  publish_same hlone.users hlone.balances hlone.records hlone.exchanges hlone.debtors
    hlone.debts

theorem writeBalance (hlone : unit.Lone snapshot) {current balance : Balance}
    (hfind : unit.working.balances.find? balance.id = some current) :
    (unit.writeBalance balance (.stored current.version)).Lone snapshot :=
  { hlone with
    balances := hlone.balances.touch balance _
    opened := by
      intro id hcreated
      rcases WriteSet.mem_touch.mp hcreated with hcreated | ⟨-, heq⟩
      · exact hlone.opened id hcreated
      · cases heq
    stamped := hlone.stamped.touch_stored hlone.balances hfind }

theorem createDebtor (hlone : unit.Lone snapshot) (debtor : Debtor) :
    (unit.writeDebtor debtor .created).Lone snapshot :=
  { hlone with
    debtors := hlone.debtors.touch debtor _
    stampedDebtors := hlone.stampedDebtors.touch_created debtor.id }

theorem writeDebtor (hlone : unit.Lone snapshot) {current debtor : Debtor}
    (hfind : unit.working.debtors.find? debtor.id = some current) :
    (unit.writeDebtor debtor (.stored current.version)).Lone snapshot :=
  { hlone with
    debtors := hlone.debtors.touch debtor _
    stampedDebtors := hlone.stampedDebtors.touch_stored hlone.debtors hfind }

theorem dropRecords (hlone : unit.Lone snapshot) (ids : List RecordId) :
    (ids.foldl dropRecord unit).Lone snapshot := by
  induction ids generalizing unit with
  | nil => exact hlone
  | cons id rest ih => exact ih { hlone with records := hlone.records.erase id }

/-- Whatever is asked of the unit, as long as no balance is opened. -/
theorem answer (hlone : unit.Lone snapshot) {request : Call} {reply : request.Answer}
    (hopens : ∀ balance, request ≠ .createBalance balance)
    (hanswer : unit.answer request = (.ok reply, last)) : last.Lone snapshot := by
  cases request with
  | createBalance balance => exact absurd rfl (hopens balance)
  | updateBalance balance =>
    obtain ⟨current, hfind, -, rfl, rfl⟩ := updateBalance_eq_ok.mp hanswer
    exact hlone.writeBalance hfind
  | createRecord record =>
    cases hanswer
    exact { hlone with records := hlone.records.insert record }
  | updateRecord record =>
    obtain ⟨-, rfl⟩ := changing_eq_ok.mp hanswer
    exact { hlone with records := hlone.records.insert record }
  | deleteRecord id =>
    obtain ⟨-, rfl⟩ := changing_eq_ok.mp hanswer
    exact { hlone with records := hlone.records.erase id }
  | deleteRecordsForExchange id | deleteRecordsForDebt id =>
    cases hanswer
    exact hlone.dropRecords _
  | createExchange exchange =>
    cases hanswer
    exact { hlone with exchanges := hlone.exchanges.insert exchange }
  | updateExchange exchange =>
    obtain ⟨-, rfl⟩ := changing_eq_ok.mp hanswer
    exact { hlone with exchanges := hlone.exchanges.insert exchange }
  | deleteExchange id =>
    obtain ⟨-, rfl⟩ := changing_eq_ok.mp hanswer
    exact { hlone with exchanges := hlone.exchanges.erase id }
  | createDebtor debtor =>
    cases hanswer
    exact hlone.createDebtor debtor
  | updateDebtor debtor =>
    obtain ⟨current, hfind, -, rfl, rfl⟩ := updateDebtor_eq_ok.mp hanswer
    exact hlone.writeDebtor hfind
  | createDebt debt =>
    cases hanswer
    exact { hlone with debts := hlone.debts.insert debt }
  | updateDebt debt =>
    obtain ⟨-, rfl⟩ := changing_eq_ok.mp hanswer
    exact { hlone with debts := hlone.debts.insert debt }
  | deleteDebt id =>
    obtain ⟨-, rfl⟩ := changing_eq_ok.mp hanswer
    exact { hlone with debts := hlone.debts.erase id }
  | _ =>
    -- What only reads leaves the unit as it is.
    cases hanswer
    exact hlone

end Lone

/-- A unit that has written rows of one user only, and opened no balance. -/
structure Sole (user : UserId) (snapshot : Tables) (unit : MemoryUnit) : Prop
    extends unit.Lone snapshot where
  others : snapshot.AgreeWhere (· ≠ user) unit.working
  /-- Each balance is one that was there, of its user and in its currency. -/
  accounts : ∀ row ∈ unit.working.balances.rows,
    ∃ old ∈ snapshot.balances.rows, old.SameOwner row

/-- A unit that can be committed on the tables it was opened on, and leaves the rows of all
others there as they are. -/
structure Ready (user : UserId) (snapshot : Tables) (unit : MemoryUnit) : Prop where
  check : unit.check snapshot = .ok ()
  published : (unit.publish snapshot).Same unit.working
  others : snapshot.AgreeWhere (· ≠ user) unit.working

theorem Sole.start (user : UserId) (snapshot : Tables) : Sole user snapshot ⟨snapshot, {}⟩ :=
  { Lone.start snapshot with
    others := .refl snapshot
    accounts := fun row hmem => ⟨row, hmem, rfl, rfl, rfl⟩ }

namespace Sole

variable {user : UserId} {snapshot : Tables} {unit : MemoryUnit}

theorem ready (hsole : unit.Sole user snapshot) : unit.Ready user snapshot where
  check := hsole.toLone.check
  published := hsole.toLone.published
  others := hsole.others

theorem onePerPair (hsole : unit.Sole user snapshot) (hone : snapshot.balances.OnePerPair) :
    unit.working.balances.OnePerPair := by
  intro left hleft right hright huser hcurrency
  obtain ⟨old, hold, hsame⟩ := hsole.accounts left hleft
  obtain ⟨old', hold', hsame'⟩ := hsole.accounts right hright
  have heq : old = old' := hone old hold old' hold'
    (by rw [← hsame.userId, huser, hsame'.userId])
    (by rw [← hsame.currency, hcurrency, hsame'.currency])
  apply Table.eq_of_key_eq hleft hright
  change left.id = right.id
  rw [hsame.id, heq, hsame'.id]

theorem writeBalance (hsole : unit.Sole user snapshot) {current balance : Balance}
    (hfind : unit.working.balances.find? balance.id = some current)
    (hthere : ∃ old ∈ snapshot.balances.rows, old.SameOwner balance)
    (huser : balance.userId = user) :
    (unit.writeBalance balance (.stored current.version)).Sole user snapshot := by
  have hhas : snapshot.balances.HasOf user balance.id := by
    obtain ⟨old, hold, hsame⟩ := hthere
    exact ⟨old, hold, hsame.id.symm, hsame.userId.symm.trans huser⟩
  exact
    { hsole.toLone.writeBalance hfind with
      others := { hsole.others with balances := hsole.others.balances.insert huser hhas.under }
      accounts := fun row hrow => by
        rcases Table.mem_rows_insert.mp hrow with rfl | ⟨hrow, -⟩
        · exact hthere
        · exact hsole.accounts row hrow }

theorem createDebtor (hsole : unit.Sole user snapshot) {debtor : Debtor}
    (huser : debtor.userId = user) (hunder : snapshot.debtors.Under user debtor.id) :
    (unit.writeDebtor debtor .created).Sole user snapshot :=
  { hsole.toLone.createDebtor debtor with
    others := { hsole.others with debtors := hsole.others.debtors.insert huser hunder }
    accounts := hsole.accounts }

theorem writeDebtor (hsole : unit.Sole user snapshot) {current debtor : Debtor}
    (hfind : unit.working.debtors.find? debtor.id = some current)
    (huser : debtor.userId = user) (hunder : snapshot.debtors.Under user debtor.id) :
    (unit.writeDebtor debtor (.stored current.version)).Sole user snapshot :=
  { hsole.toLone.writeDebtor hfind with
    others := { hsole.others with debtors := hsole.others.debtors.insert huser hunder }
    accounts := hsole.accounts }

theorem writeRecord (hsole : unit.Sole user snapshot) {record : Record}
    (huser : record.userId = user) (hunder : snapshot.records.Under user record.id) :
    (unit.writeRecord record).Sole user snapshot :=
  { hsole with
    others := { hsole.others with records := hsole.others.records.insert huser hunder }
    records := hsole.records.insert record }

theorem writeExchange (hsole : unit.Sole user snapshot) {exchange : Exchange}
    (huser : exchange.userId = user) (hunder : snapshot.exchanges.Under user exchange.id) :
    (unit.writeExchange exchange).Sole user snapshot :=
  { hsole with
    others := { hsole.others with exchanges := hsole.others.exchanges.insert huser hunder }
    exchanges := hsole.exchanges.insert exchange }

theorem writeDebt (hsole : unit.Sole user snapshot) {debt : Debt}
    (huser : debt.userId = user) (hunder : snapshot.debts.Under user debt.id) :
    (unit.writeDebt debt).Sole user snapshot :=
  { hsole with
    others := { hsole.others with debts := hsole.others.debts.insert huser hunder }
    debts := hsole.debts.insert debt }

theorem dropRecord (hsole : unit.Sole user snapshot) {id : RecordId}
    (hunder : snapshot.records.Under user id) : (unit.dropRecord id).Sole user snapshot :=
  { hsole with
    others := { hsole.others with records := hsole.others.records.erase hunder }
    records := hsole.records.erase id }

/-- All records that a test keeps, which keeps none of others. -/
theorem dropRecords (hsole : unit.Sole user snapshot) {chosen : Record → Bool}
    (hchosen : ∀ record ∈ snapshot.records.rows, chosen record = true → record.userId = user) :
    (((unit.working.records.rows.filter chosen).map Record.id).foldl MemoryUnit.dropRecord
      unit).Sole user snapshot := by
  have hunder : ∀ id ∈ (unit.working.records.rows.filter chosen).map Record.id,
      snapshot.records.Under user id := by
    intro id hid old hfind
    by_contra hother
    obtain ⟨record, hrecord, rfl⟩ := List.mem_map.mp hid
    obtain ⟨hmem, hkept⟩ := List.mem_filter.mp hrecord
    obtain ⟨hold, hkey⟩ := Table.find?_eq_some_iff.mp hfind
    have hstill := (hsole.others.records old hother).mp hold
    rw [← Table.eq_of_key_eq hstill hmem hkey] at hkept
    exact hother (hchosen old hold hkept)
  generalize (unit.working.records.rows.filter chosen).map Record.id = ids at hunder
  induction ids generalizing unit with
  | nil => exact hsole
  | cons id rest ih =>
    obtain ⟨hhead, hrest⟩ := List.forall_mem_cons.mp hunder
    exact ih (hsole.dropRecord hhead) hrest

theorem dropExchange (hsole : unit.Sole user snapshot) {id : ExchangeId}
    (hunder : snapshot.exchanges.Under user id) : (unit.dropExchange id).Sole user snapshot :=
  { hsole with
    others := { hsole.others with exchanges := hsole.others.exchanges.erase hunder }
    exchanges := hsole.exchanges.erase id }

theorem dropDebt (hsole : unit.Sole user snapshot) {id : DebtId}
    (hunder : snapshot.debts.Under user id) : (unit.dropDebt id).Sole user snapshot :=
  { hsole with
    others := { hsole.others with debts := hsole.others.debts.erase hunder }
    debts := hsole.debts.erase id }

end Sole

/-- A unit that has opened one balance and done nothing else. -/
theorem ready_createBalance {user : UserId} {snapshot : Tables} {balance : Balance}
    (hfree : snapshot.balanceFor balance.userId balance.currency = none)
    (huser : balance.userId = user) (hunder : snapshot.balances.Under user balance.id) :
    (writeBalance ⟨snapshot, {}⟩ balance .created).Ready user snapshot where
  check := by
    refine check_eq_ok_iff.mpr ⟨fun entry hmem => ?_, nofun⟩
    obtain rfl : entry = (balance.id, .created) := List.mem_singleton.mp hmem
    refine (checkBalance_created_eq_ok (Table.find?_insert_self snapshot.balances balance)).mpr ?_
    exact fun other hother hsame hcurrency =>
      absurd hcurrency (Tables.balanceFor_eq_none_iff.mp hfree other hother hsame)
  published := by
    refine publish_same rfl ?_ (fun _ _ => rfl) (fun _ _ => rfl) (fun _ _ => rfl) fun _ _ => rfl
    exact @Table.Unwritten.touch _ _ _ _ [] _ _ (fun _ _ => rfl) balance .created
  others :=
    { Tables.AgreeWhere.refl snapshot with
      balances := (Table.AgreeWhere.refl snapshot.balances).insert huser hunder }

end MemoryUnit

end CashLedger
