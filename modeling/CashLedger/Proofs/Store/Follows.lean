import CashLedger.Proofs.Store.Mandate
import CashLedger.Proofs.Store.Replay

/-!
# Tables that follow a snapshot

While a unit is open others commit.  The shared tables follow its snapshot: every
balance and debtor of it is still there, unwritten unless its version has risen,
and so is everything else whose balances or debtor are unwritten.  A commit that
finds what it held unwritten therefore finds all it ever looked at unchanged, and
it leaves tables that follow those it found.
-/

namespace CashLedger

open Keyed (key)

namespace Table

variable {α κ : Type} [Keyed α κ] [DecidableEq κ]

/-- A row that both tables have. -/
def Kept (k : κ) (snapshot shared : Table α) : Prop :=
  ∃ row, snapshot.find? k = some row ∧ shared.find? k = some row

/-- No row is lost, and one that has changed has a higher version. -/
def Advances (version : α → Int64) (snapshot shared : Table α) : Prop :=
  ∀ k row, snapshot.find? k = some row → ∃ now, shared.find? k = some now ∧
    version row ≤ version now ∧ (version now ≤ version row → now = row)

namespace Advances

variable {version : α → Int64} {first middle last : Table α} {k : κ}

theorem refl (version : α → Int64) (table : Table α) : Advances version table table :=
  fun _ row hfind => ⟨row, hfind, Int64.le_refl _, fun _ => rfl⟩

theorem trans (hfirst : Advances version first middle)
    (hlast : Advances version middle last) : Advances version first last := by
  intro k row hfind
  obtain ⟨between, hbetween, hle, heq⟩ := hfirst k row hfind
  obtain ⟨now, hnow, hle', heq'⟩ := hlast k between hbetween
  refine ⟨now, hnow, Int64.le_trans hle hle', fun hback => ?_⟩
  rw [heq' (Int64.le_trans hback hle), heq (Int64.le_trans hle' hback)]

/-- What is kept over all is kept all the time. -/
theorem kept (hfirst : Advances version first middle) (hlast : Advances version middle last)
    (hkept : Kept k first last) : Kept k first middle ∧ Kept k middle last := by
  obtain ⟨row, hfind, hback⟩ := hkept
  obtain ⟨between, hbetween, -, heq⟩ := hfirst k row hfind
  obtain ⟨now, hnow, hle, -⟩ := hlast k between hbetween
  rw [hback] at hnow
  cases hnow
  obtain rfl := heq hle
  exact ⟨⟨between, hfind, hbetween⟩, ⟨between, hbetween, hback⟩⟩

theorem kept_of_version (hadvances : Advances version first last) {row : α}
    (hfind : first.find? k = some row)
    (hversion : (last.find? k).map version = some (version row)) : Kept k first last := by
  obtain ⟨now, hnow, -, heq⟩ := hadvances k row hfind
  rw [hnow, Option.map_some, Option.some.injEq] at hversion
  obtain rfl := heq (hversion ▸ Int64.le_refl _)
  exact ⟨now, hfind, hnow⟩

end Advances

section Raised

variable {version : α → Int64} {touched : List (κ × Base)}
  {snapshot working published : Table α}

theorem Raised.advances (hraised : Raised version touched snapshot working)
    (hpublished : ∀ k, published.find? k =
      if k ∈ touched.map Prod.fst then working.find? k else snapshot.find? k) :
    Advances version snapshot published := by
  intro k row hfind
  rw [hpublished]
  split
  · next hmem =>
    obtain ⟨now, hnow, hlt⟩ := hraised.lt_of_mem hmem hfind
    refine ⟨now, hnow, Int64.le_of_lt hlt, fun hle => ?_⟩
    exact absurd (Int64.lt_of_le_of_lt hle hlt) Int64.lt_irrefl
  · exact ⟨row, hfind, Int64.le_refl _, fun _ => rfl⟩

theorem Raised.not_kept (hraised : Raised version touched snapshot working)
    (hpublished : ∀ k, published.find? k =
      if k ∈ touched.map Prod.fst then working.find? k else snapshot.find? k)
    {k : κ} (hmem : k ∈ touched.map Prod.fst) : ¬Kept k snapshot published := by
  rintro ⟨row, hfind, hback⟩
  obtain ⟨now, hnow, hlt⟩ := hraised.lt_of_mem hmem hfind
  rw [hpublished, if_pos hmem, hnow] at hback
  cases hback
  exact absurd hlt Int64.lt_irrefl

end Raised

end Table

namespace Tables

/-- The later tables as seen from a snapshot of earlier ones. -/
structure Follows (snapshot shared : Tables) : Prop where
  balances : Table.Advances Balance.version snapshot.balances shared.balances
  debtors : Table.Advances Debtor.version snapshot.debtors shared.debtors
  free : ∀ record ∈ snapshot.records.rows, record.source.isOwned = false →
    Table.Kept record.balanceId snapshot.balances shared.balances →
    shared.records.find? record.id = some record
  exchanges : ∀ exchange ∈ snapshot.exchanges.rows,
    (∀ record ∈ snapshot.records.rows, record.source = .exchange exchange.id →
      Table.Kept record.balanceId snapshot.balances shared.balances) →
    shared.exchanges.find? exchange.id = some exchange ∧
      snapshot.records.rows.filter (Record.isOfExchange exchange.id) =
        shared.records.rows.filter (Record.isOfExchange exchange.id)
  debts : ∀ debt ∈ snapshot.debts.rows,
    Table.Kept debt.debtorId snapshot.debtors shared.debtors →
    shared.debts.find? debt.id = some debt ∧
      snapshot.records.rows.filter (Record.isOfDebt debt.id) =
        shared.records.rows.filter (Record.isOfDebt debt.id)

namespace Follows

variable {first middle last : Tables}

theorem refl (tables : Tables) : Follows tables tables where
  balances := .refl _ _
  debtors := .refl _ _
  free _ hmem _ _ := Table.mem_rows_iff.mp hmem
  exchanges _ hmem _ := ⟨Table.mem_rows_iff.mp hmem, rfl⟩
  debts _ hmem _ := ⟨Table.mem_rows_iff.mp hmem, rfl⟩

theorem trans (hfirst : Follows first middle) (hlast : Follows middle last) :
    Follows first last where
  balances := hfirst.balances.trans hlast.balances
  debtors := hfirst.debtors.trans hlast.debtors
  free record hmem hfree hkept := by
    obtain ⟨hkept₁, hkept₂⟩ := hfirst.balances.kept hlast.balances hkept
    have hthen := hfirst.free record hmem hfree hkept₁
    exact hlast.free record (Table.mem_of_find? hthen) hfree hkept₂
  exchanges exchange hmem hkept := by
    obtain ⟨hthen, hfilter⟩ := hfirst.exchanges exchange hmem fun record hrecord hsource =>
      (hfirst.balances.kept hlast.balances (hkept record hrecord hsource)).1
    obtain ⟨hnow, hfilter'⟩ := hlast.exchanges exchange (Table.mem_of_find? hthen) <| by
      intro record hrecord hsource
      -- The exchange has the same records in the middle as at first.
      have hold : record ∈ first.records.rows.filter (Record.isOfExchange exchange.id) := by
        rw [hfilter, List.mem_filter, Record.isOfExchange_iff]
        exact ⟨hrecord, hsource⟩
      have hold := (List.mem_filter.mp hold).1
      exact (hfirst.balances.kept hlast.balances (hkept record hold hsource)).2
    exact ⟨hnow, hfilter.trans hfilter'⟩
  debts debt hmem hkept := by
    obtain ⟨hkept₁, hkept₂⟩ := hfirst.debtors.kept hlast.debtors hkept
    obtain ⟨hthen, hfilter⟩ := hfirst.debts debt hmem hkept₁
    obtain ⟨hnow, hfilter'⟩ := hlast.debts debt (Table.mem_of_find? hthen) hkept₂
    exact ⟨hnow, hfilter.trans hfilter'⟩

end Follows

end Tables

/-! ## After a commit -/

namespace Mandate

variable {promise : Promise} {mandate : Mandate}

/-- A commit on the tables it started on leaves tables that follow them. -/
theorem Fulfilled.follows_publish (hfulfilled : mandate.Fulfilled)
    (hconsistent : mandate.snapshot.Consistent promise)
    (htracks : MemoryUnit.Tracks mandate.snapshot mandate.last.unit)
    (hconfined : MemoryUnit.Confined mandate mandate.last.unit) :
    Tables.Follows mandate.snapshot (mandate.last.unit.publish mandate.snapshot) := by
  have hbalances := mandate.last.unit.find?_publish_balances mandate.snapshot
  have hdebtors := mandate.last.unit.find?_publish_debtors mandate.snapshot
  -- Records of another source keep their place under any test for their source.
  have hfilter : ∀ keep : Record → Bool,
      (∀ record, keep record = true → record.source ≠ mandate.owner) →
      mandate.snapshot.records.rows.filter keep =
        (mandate.last.unit.publish mandate.snapshot).records.rows.filter keep := by
    intro keep hkeep
    symm
    apply Table.filter_foldl_copyRow
    · intro id hid record hfind
      have hsource := (hconfined.stored id hid record hfind).1
      exact Bool.eq_false_iff.mpr fun h => hkeep record h hsource
    · intro id hid record hfind
      have hsource := hconfined.written id hid record hfind
      exact Bool.eq_false_iff.mpr fun h => hkeep record h hsource
  constructor
  · exact htracks.balances.advances hbalances
  · exact htracks.debtors.advances hdebtors
  · intro record hmem hfree hkept
    have hfind := Table.mem_rows_iff.mp hmem
    have hunwritten : record.id ∉ mandate.last.unit.writes.records := by
      intro hwritten
      have hheld := (hconfined.stored _ hwritten record hfind).2 hfree
      exact htracks.balances.not_kept hbalances hheld hkept
    rw [MemoryUnit.find?_publish_records, if_neg hunwritten]
    exact hfind
  · intro exchange hmem hkept
    have hfind := Table.mem_rows_iff.mp hmem
    have hother : mandate.owner ≠ .exchange exchange.id := by
      intro howner
      -- It has a record, whose balance the change has written.
      obtain ⟨record, hrecord, hsource⟩ :=
        (hconsistent.exchanges exchange hmem).exists_mem
      have hheld := hfulfilled.exchange exchange.id ⟨howner, exchange, hfind⟩ record hrecord
        hsource
      exact htracks.balances.not_kept hbalances hheld (hkept record hrecord hsource)
    refine ⟨?_, hfilter _ ?_⟩
    · rw [MemoryUnit.find?_publish_exchanges,
        if_neg fun hwritten => hother (hconfined.exchanges _ hwritten)]
      exact hfind
    · intro record hrecord
      rw [Record.isOfExchange_iff.mp hrecord]
      exact Ne.symm hother
  · intro debt hmem hkept
    have hfind := Table.mem_rows_iff.mp hmem
    have hother : mandate.owner ≠ .debt debt.id := by
      intro howner
      have hheld := hfulfilled.debt debt.id debt howner hfind
      exact htracks.debtors.not_kept hdebtors hheld hkept
    refine ⟨?_, hfilter _ ?_⟩
    · rw [MemoryUnit.find?_publish_debts,
        if_neg fun hwritten => hother (hconfined.debts _ hwritten)]
      exact hfind
    · intro record hrecord
      rw [Record.isOfDebt_iff.mp hrecord]
      exact Ne.symm hother

/-! ## At a commit -/

section Agree

variable {shared : Tables}

/-- A balance that was there and has been written is found at the commit as it was. -/
theorem kept_balance (htracks : MemoryUnit.Tracks mandate.snapshot mandate.last.unit)
    (hfollows : mandate.snapshot.Follows shared)
    (hcheck : mandate.last.unit.check shared = .ok ()) {id : BalanceId} {row : Balance}
    (hfind : mandate.snapshot.balances.find? id = some row)
    (hheld : id ∈ mandate.last.unit.writes.balanceIds) :
    Table.Kept id mandate.snapshot.balances shared.balances := by
  have hstored := htracks.balances.stored_mem hheld hfind
  have hversion := (MemoryUnit.check_eq_ok_iff.mp hcheck).1 _ hstored
  rw [MemoryUnit.checkBalance_stored_eq_ok] at hversion
  exact hfollows.balances.kept_of_version hfind hversion

/-- A debtor who was there and has been written is found at the commit as it was. -/
theorem kept_debtor (htracks : MemoryUnit.Tracks mandate.snapshot mandate.last.unit)
    (hfollows : mandate.snapshot.Follows shared)
    (hcheck : mandate.last.unit.check shared = .ok ()) {id : DebtorId} {row : Debtor}
    (hfind : mandate.snapshot.debtors.find? id = some row)
    (hheld : id ∈ mandate.last.unit.writes.debtorIds) :
    Table.Kept id mandate.snapshot.debtors shared.debtors := by
  have hstored := htracks.debtors.stored_mem hheld hfind
  have hversion := (MemoryUnit.check_eq_ok_iff.mp hcheck).2 _ hstored
  rw [MemoryUnit.checkDebtor_stored_eq_ok] at hversion
  exact hfollows.debtors.kept_of_version hfind hversion

/-- A change that passes the check at a time when the tables follow its snapshot. -/
structure Passes (promise : Promise) (mandate : Mandate) (shared : Tables) : Prop where
  fulfilled : mandate.Fulfilled
  tracks : MemoryUnit.Tracks mandate.snapshot mandate.last.unit
  consistent : mandate.snapshot.Consistent promise
  shared_consistent : shared.Consistent promise
  follows : mandate.snapshot.Follows shared
  check : mandate.last.unit.check shared = .ok ()
  /-- The tables do not have the new identifiers. -/
  new : shared.IdsIn (· ∉ mandate.drawn)

namespace Passes

variable (hpasses : mandate.Passes promise shared)

include hpasses

theorem kept_of_holdsBalance {id : BalanceId} (hholds : mandate.HoldsBalance id) :
    Table.Kept id mandate.snapshot.balances shared.balances := by
  obtain ⟨⟨row, hfind⟩, hheld⟩ := hholds
  exact kept_balance hpasses.tracks hpasses.follows hpasses.check hfind hheld

theorem kept_of_holdsDebtor {id : DebtorId} (hholds : mandate.HoldsDebtor id) :
    Table.Kept id mandate.snapshot.debtors shared.debtors := by
  obtain ⟨⟨row, hfind⟩, hheld⟩ := hholds
  exact kept_debtor hpasses.tracks hpasses.follows hpasses.check hfind hheld

/-- The exchange of the change and its records are as they were. -/
theorem exchange_eq {id : ExchangeId} (howns : mandate.OwnsExchange id) :
    mandate.snapshot.exchanges.find? id = shared.exchanges.find? id ∧
      mandate.snapshot.records.rows.filter (Record.isOfExchange id) =
        shared.records.rows.filter (Record.isOfExchange id) := by
  obtain ⟨exchange, hfind⟩ := howns.2
  obtain ⟨hmem, hkey⟩ := Table.find?_eq_some_iff.mp hfind
  change exchange.id = id at hkey
  subst hkey
  have hsame := hpasses.follows.exchanges exchange hmem <| by
    intro record hrecord hsource
    obtain ⟨balance, hplaced, -⟩ := hpasses.consistent.balanced.placed record hrecord
    exact kept_balance hpasses.tracks hpasses.follows hpasses.check hplaced
      (hpasses.fulfilled.exchange exchange.id howns record hrecord hsource)
  exact ⟨hfind.trans hsame.1.symm, hsame.2⟩

/-- The debt of the change and its records are as they were. -/
theorem debt_eq {id : DebtId} (howns : mandate.OwnsDebt id) :
    mandate.snapshot.debts.find? id = shared.debts.find? id ∧
      mandate.snapshot.records.rows.filter (Record.isOfDebt id) =
        shared.records.rows.filter (Record.isOfDebt id) := by
  obtain ⟨howner, debt, hfind⟩ := howns
  obtain ⟨hmem, hkey⟩ := Table.find?_eq_some_iff.mp hfind
  change debt.id = id at hkey
  subst hkey
  obtain ⟨debtor, hdebtor, -⟩ := hpasses.consistent.owed.debtor debt hmem
  have hsame := hpasses.follows.debts debt hmem
    (kept_debtor hpasses.tracks hpasses.follows hpasses.check hdebtor
      (hpasses.fulfilled.debt debt.id debt howner hfind))
  exact ⟨hfind.trans hsame.1.symm, hsame.2⟩

/-- A record of the change's source is as it was. -/
theorem record_eq {id : RecordId} (howns : mandate.OwnsRecord id) :
    mandate.snapshot.records.find? id = shared.records.find? id := by
  obtain ⟨record, hfind, hsource, hheld⟩ := howns
  obtain ⟨hmem, hkey⟩ := Table.find?_eq_some_iff.mp hfind
  change record.id = id at hkey
  subst hkey
  rw [hfind]
  symm
  have hfree : record.source.isOwned = false →
      shared.records.find? record.id = some record := by
    intro hnot
    obtain ⟨balance, hplaced, -⟩ := hpasses.consistent.balanced.placed record hmem
    exact hpasses.follows.free record hmem hnot
      (kept_balance hpasses.tracks hpasses.follows hpasses.check hplaced (hheld hnot))
  cases hcase : record.source with
  | manual => exact hfree (by rw [hcase]; rfl)
  | transaction id => exact hfree (by rw [hcase]; rfl)
  | exchange owner =>
    obtain ⟨exchange, hstored⟩ := hpasses.consistent.exchangeOf record hmem owner hcase
    have hsame := hpasses.exchange_eq ⟨(hsource.symm.trans hcase), exchange, hstored⟩
    have hlisted : record ∈ shared.records.rows.filter (Record.isOfExchange owner) := by
      rw [← hsame.2, List.mem_filter, Record.isOfExchange_iff]
      exact ⟨hmem, hcase⟩
    exact Table.mem_rows_iff.mp (List.mem_filter.mp hlisted).1
  | debt owner =>
    obtain ⟨debt, hstored⟩ := hpasses.consistent.debtOf record hmem owner hcase
    have hsame := hpasses.debt_eq ⟨(hsource.symm.trans hcase), debt, hstored⟩
    have hlisted : record ∈ shared.records.rows.filter (Record.isOfDebt owner) := by
      rw [← hsame.2, List.mem_filter, Record.isOfDebt_iff]
      exact ⟨hmem, hcase⟩
    exact Table.mem_rows_iff.mp (List.mem_filter.mp hlisted).1

/-- The balance that the change found for an owner and currency is the one that is
found at the commit. -/
theorem pair_eq {balance : Balance} (hmem : balance ∈ mandate.snapshot.balances.rows)
    (hheld : balance.id ∈ mandate.last.unit.writes.balanceIds) :
    (mandate.snapshot.balances.rows.filter fun b =>
        b.userId = balance.userId && b.currency = balance.currency) =
      shared.balances.rows.filter fun b =>
        b.userId = balance.userId && b.currency = balance.currency := by
  have hfind : mandate.snapshot.balances.find? balance.id = some balance :=
    Table.mem_rows_iff.mp hmem
  obtain ⟨row, hrow, hnow⟩ :=
    kept_balance hpasses.tracks hpasses.follows hpasses.check hfind hheld
  rw [hfind] at hrow
  cases hrow
  rw [hpasses.consistent.balanced.filter_pair_eq hmem,
    hpasses.shared_consistent.balanced.filter_pair_eq (Table.mem_of_find? hnow)]

/-- Nobody has opened a balance for the owner and currency of a new one. -/
theorem free_pair {balance : Balance} (hwithin : (Call.createBalance balance).Within mandate)
    (hfresh : mandate.snapshot.balances.find? balance.id = none) :
    ∀ other ∈ shared.balances.rows,
      ¬(other.userId = balance.userId ∧ other.currency = balance.currency) := by
  obtain ⟨hdrawn, -, hheld, hworking⟩ := hwithin
  rintro other hother ⟨huser, hcurrency⟩
  obtain ⟨⟨id, base⟩, hentry, hid⟩ := List.mem_map.mp hheld
  change id = balance.id at hid
  subst hid
  have hbase := hpasses.tracks.balances.base _ base hentry
  rw [hfresh] at hbase
  subst hbase
  have hcheck := (MemoryUnit.check_eq_ok_iff.mp hpasses.check).1 _ hentry
  rw [Option.map_none, Base.of, MemoryUnit.checkBalance_created_eq_ok hworking] at hcheck
  have hsame := hcheck other hother huser hcurrency
  have hfind : shared.balances.find? other.id = some other := Table.mem_rows_iff.mp hother
  rw [hsame] at hfind
  exact hpasses.new.balances balance.id other hfind hdrawn

end Passes

end Agree

end Mandate

/-! ## Scopes that look at one table -/

namespace Scope

variable {left right : Tables}

theorem agree_balances {keep : Balance → Bool}
    (heq : left.balances.rows.filter keep = right.balances.rows.filter keep) :
    Agree { balances := keep } left right := by
  constructor <;> first | exact heq | simp

theorem agree_records {keep : Record → Bool}
    (heq : left.records.rows.filter keep = right.records.rows.filter keep) :
    Agree { records := keep } left right := by
  constructor <;> first | exact heq | simp

theorem agree_exchanges {id : ExchangeId}
    (heq : left.exchanges.find? id = right.exchanges.find? id) :
    Agree { exchanges := fun x => x.id = id } left right := by
  have hrows := Table.filter_key_eq left.exchanges id
  rw [heq, ← Table.filter_key_eq] at hrows
  constructor <;> first | exact hrows | simp

theorem agree_debtors {id : DebtorId}
    (heq : left.debtors.find? id = right.debtors.find? id) :
    Agree { debtors := fun d => d.id = id } left right := by
  have hrows := Table.filter_key_eq left.debtors id
  rw [heq, ← Table.filter_key_eq] at hrows
  constructor <;> first | exact hrows | simp

theorem agree_debts {id : DebtId} (heq : left.debts.find? id = right.debts.find? id) :
    Agree { debts := fun d => d.id = id } left right := by
  have hrows := Table.filter_key_eq left.debts id
  rw [heq, ← Table.filter_key_eq] at hrows
  constructor <;> first | exact hrows | simp

theorem agree_nothing : Agree {} left right := by
  constructor <;> simp

end Scope

theorem Table.Kept.filter_eq {α κ : Type} [Keyed α κ] [DecidableEq κ] {k : κ}
    {snapshot shared : Table α} (hkept : Kept k snapshot shared) :
    (snapshot.rows.filter fun row => key row = k) =
      shared.rows.filter fun row => key row = k := by
  obtain ⟨row, hfind, hnow⟩ := hkept
  rw [filter_key_eq, filter_key_eq, hfind, hnow]

theorem Table.Kept.find?_eq {α κ : Type} [Keyed α κ] [DecidableEq κ] {k : κ}
    {snapshot shared : Table α} (hkept : Kept k snapshot shared) :
    snapshot.find? k = shared.find? k := by
  obtain ⟨row, hfind, hnow⟩ := hkept
  rw [hfind, hnow]

/-- A change that passes the check has seen nothing that is otherwise now. -/
theorem Mandate.Passes.agree {promise : Promise} {mandate : Mandate} {shared : Tables}
    (hpasses : mandate.Passes promise shared) (hfresh : mandate.Fresh) :
    ∀ request ∈ mandate.last.calls, request.scope.Agree mandate.snapshot shared := by
  intro request hmem
  have hwithin := hpasses.fulfilled.calls request hmem
  have hrecord : ∀ id, mandate.OwnsRecord id →
      (mandate.snapshot.records.rows.filter fun r => r.id = id) =
        shared.records.rows.filter fun r => r.id = id := by
    intro id howns
    have hrows := Table.filter_key_eq mandate.snapshot.records id
    rw [hpasses.record_eq howns, ← Table.filter_key_eq] at hrows
    exact hrows
  cases request with
  | createBalance balance =>
    apply Scope.agree_balances
    have hnone := hwithin.2.1
    rw [Tables.balanceFor, List.find?_eq_none] at hnone
    rw [List.filter_eq_nil_iff.mpr hnone]
    symm
    rw [List.filter_eq_nil_iff]
    intro other hother
    simpa using hpasses.free_pair hwithin (hfresh.balance hwithin.1) other hother
  | balanceFor user currency =>
    obtain ⟨balance, hbalance, rfl, rfl, hheld⟩ := hwithin
    exact Scope.agree_balances (hpasses.pair_eq hbalance hheld)
  | balanceById id =>
    exact Scope.agree_balances (hpasses.kept_of_holdsBalance hwithin).filter_eq
  | updateBalance balance =>
    exact Scope.agree_balances (hpasses.kept_of_holdsBalance hwithin).filter_eq
  | recordById id => exact Scope.agree_records (hrecord id hwithin)
  | updateRecord record => exact Scope.agree_records (hrecord record.id hwithin.1)
  | deleteRecord id => exact Scope.agree_records (hrecord id hwithin)
  | recordsForExchange id => exact Scope.agree_records (hpasses.exchange_eq hwithin).2
  | deleteRecordsForExchange id => exact Scope.agree_records (hpasses.exchange_eq hwithin).2
  | recordsForDebt id => exact Scope.agree_records (hpasses.debt_eq hwithin).2
  | deleteRecordsForDebt id => exact Scope.agree_records (hpasses.debt_eq hwithin).2
  | exchangeById id => exact Scope.agree_exchanges (hpasses.exchange_eq hwithin).1
  | updateExchange exchange => exact Scope.agree_exchanges (hpasses.exchange_eq hwithin).1
  | deleteExchange id => exact Scope.agree_exchanges (hpasses.exchange_eq hwithin).1
  | debtorById id => exact Scope.agree_debtors (hpasses.kept_of_holdsDebtor hwithin).find?_eq
  | updateDebtor debtor =>
    exact Scope.agree_debtors (hpasses.kept_of_holdsDebtor hwithin).find?_eq
  | debtById id => exact Scope.agree_debts (hpasses.debt_eq hwithin).1
  | updateDebt debt => exact Scope.agree_debts (hpasses.debt_eq hwithin).1
  | deleteDebt id => exact Scope.agree_debts (hpasses.debt_eq hwithin).1
  | createRecord _ | createExchange _ | createDebtor _ | createDebt _ | userById _ =>
    exact Scope.agree_nothing
  | balancesForUser _ | balancesForCompany _ | allBalances | recordsForBalance _
  | debtorsForUser _ | debtsForDebtor _ => exact hwithin.elim

end CashLedger
