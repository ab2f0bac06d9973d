import CashLedger.Proofs.Accounts
import CashLedger.Proofs.Engine.Openings

/-!
# Currencies

A balance is opened in a valid currency or not at all, and money is only ever moved
over balances; so whatever is kept of money that was moved is in a valid currency.
What a debtor owes is not moved over a balance.  It is in the currency that the
first debt with the debtor names, and that one may be anything.
-/

namespace CashLedger

/-- Balances are in valid currencies, and debtors owe in such as are named. -/
structure Tables.Denominated (named : Currency → Prop) (tables : Tables) : Prop where
  balances : ∀ balance ∈ tables.balances.rows, balance.currency.isValid = true
  debtors : ∀ debtor ∈ tables.debtors.rows, named debtor.currency

theorem Tables.Denominated.mono {named more : Currency → Prop} {tables : Tables}
    (hdenominated : tables.Denominated named) (hmore : ∀ currency, named currency → more currency) :
    tables.Denominated more where
  balances := hdenominated.balances
  debtors debtor hmem := hmore _ (hdenominated.debtors debtor hmem)

/-- What is opened is in a currency that it may be in. -/
def Call.OpensIn (named : Currency → Prop) : Call → Prop
  | createBalance balance => balance.currency.isValid = true
  | createDebtor debtor => named debtor.currency
  | _ => True

/-- A request that has passed its check opens balances in valid currencies only, and debtors
in the currency that it names. -/
theorem Request.opensIn {limits : Limits} {request : Request} {named : Currency → Prop}
    (hcheck : (request.operation limits).check = .ok ())
    (hnamed : ∀ wanted, request = .createDebt wanted → named wanted.debted.currency)
    {call : Call} (hopened : call.OpenedBy request) : call.OpensIn named := by
  cases call with
  | createBalance balance =>
    obtain ⟨user, rfl⟩ := hopened
    simp only [operation, Engine.openBalance] at hcheck
    split at hcheck
    · next hvalid => exact hvalid
    · cases hcheck
  | createDebtor debtor =>
    obtain ⟨wanted, hrequest, hcurrency⟩ := hopened
    have hdebted : named wanted.debted.currency := hnamed wanted hrequest
    rwa [hcurrency] at hdebted
  | _ => trivial

/-! ## In a unit -/

namespace MemoryUnit

variable {named : Currency → Prop} {unit last : MemoryUnit} {request : Call}
  {reply : request.Answer}

theorem denominated_answer (hdenominated : unit.working.Denominated named)
    (hopens : request.OpensIn named) (hkeeps : request.KeepsAccount unit.working.balances)
    (hdebtors : ∀ debtor, request = .updateDebtor debtor → named debtor.currency)
    (hanswer : unit.answer request = (.ok reply, last)) :
    last.working.Denominated named := by
  cases versionedStep_answer hanswer with
  | createsBalance balance hfree =>
    refine { hdenominated with balances := fun row hrow => ?_ }
    rcases Table.mem_rows_insert.mp hrow with rfl | ⟨hrow, -⟩
    · exact hopens
    · exact hdenominated.balances row hrow
  | updatesBalance after current hfind =>
    obtain ⟨balance, hmem, hsame⟩ := hkeeps
    refine { hdenominated with balances := fun row hrow => ?_ }
    rcases Table.mem_rows_insert.mp hrow with rfl | ⟨hrow, -⟩
    · change after.currency.isValid = true
      rw [hsame.currency]
      exact hdenominated.balances balance hmem
    · exact hdenominated.balances row hrow
  | createsDebtor debtor =>
    refine { hdenominated with debtors := fun row hrow => ?_ }
    rcases Table.mem_rows_insert.mp hrow with rfl | ⟨hrow, -⟩
    · exact hopens
    · exact hdenominated.debtors row hrow
  | updatesDebtor debtor current hfind =>
    refine { hdenominated with debtors := fun row hrow => ?_ }
    rcases Table.mem_rows_insert.mp hrow with rfl | ⟨hrow, -⟩
    · exact hdebtors debtor rfl
    · exact hdenominated.debtors row hrow
  | leaves hcreated hbalances hdebtors =>
    constructor
    · rw [hbalances.1]
      exact hdenominated.balances
    · rw [hdebtors.1]
      exact hdenominated.debtors

/-- Each row that is published is the unit's or was there. -/
theorem denominated_publish {shared : Tables} (hworking : unit.working.Denominated named)
    (hshared : shared.Denominated named) : (unit.publish shared).Denominated named where
  balances balance hmem := by
    have hpublished := unit.find?_publish_balances shared balance.id
    rw [show (unit.publish shared).balances.find? balance.id = some balance from
      Table.mem_rows_iff.mp hmem] at hpublished
    split at hpublished
    · exact hworking.balances balance (Table.mem_of_find? hpublished.symm)
    · exact hshared.balances balance (Table.mem_of_find? hpublished.symm)
  debtors debtor hmem := by
    have hpublished := unit.find?_publish_debtors shared debtor.id
    rw [show (unit.publish shared).debtors.find? debtor.id = some debtor from
      Table.mem_rows_iff.mp hmem] at hpublished
    split at hpublished
    · exact hworking.debtors debtor (Table.mem_of_find? hpublished.symm)
    · exact hshared.debtors debtor (Table.mem_of_find? hpublished.symm)

end MemoryUnit

/-- Work that stores only revisions of what it found, and opens nothing that it may not,
leaves currencies in order at each point that it comes past. -/
theorem Work.Passes.denominated {α : Type} {named : Currency → Prop} {work : Work α}
    {course point : Course} (hpasses : work.Passes course point)
    {moves : List Answered → Int → Prop} {post : List Answered → α → Prop}
    {past : List Answered} (hobeys : work.Obeys (Call.Revises moves) post past)
    (hopens : ∀ call ∈ point.calls, call.OpensIn named) (hrecalls : course.unit.Recalls past)
    (hfound : ∀ id debtor, ⟨.debtorById id, some debtor⟩ ∈ past → named debtor.currency)
    (hstart : course.unit.working.Denominated named) :
    point.unit.working.Denominated named := by
  induction hpasses generalizing past with
  | here work course => exact hstart
  | @call request next course point unit reply hanswer hrest ih =>
    have hcall := hopens request
      (hrest.calls_subset (List.mem_append_right _ List.mem_cons_self))
    refine ih (hobeys.2 reply) hopens (MemoryUnit.recalls_answer hanswer past) ?_ ?_
    · intro id debtor hmem
      rcases List.mem_append.mp hmem with hmem | hmem
      · exact hfound id debtor hmem
      · cases List.mem_singleton.mp hmem
        exact hstart.debtors debtor
          (Table.mem_of_find? (Except.ok.inj (Prod.mk.inj hanswer).1))
    · refine MemoryUnit.denominated_answer hstart hcall (hrecalls.keepsAccount hobeys.1) ?_ hanswer
      rintro after rfl
      obtain ⟨id, debtor, change, hmem, -, hrevised⟩ := hobeys.1
      obtain ⟨now, hrow⟩ := hrevised.sameRow
      rw [hrow]
      exact hfound id debtor hmem
  | clock hrest ih => exact ih (hobeys _) hopens hrecalls hfound hstart
  | draw hrest ih => exact ih (hobeys _) hopens hrecalls hfound hstart

/-! ## At a desk -/

namespace Session

variable {session : Session} {shared next : Tables} {last : Course} {named : Currency → Prop}

theorem denominated_of_ending {value : session.request.Answer}
    (hending : session.ending? shared = some (value, last, next))
    (hnamed : ∀ wanted, session.request = .createDebt wanted → named wanted.debted.currency)
    (hsnapshot : session.snapshot.Denominated named) (hshared : shared.Denominated named) :
    next.Denominated named := by
  obtain ⟨hcourse, hfinish⟩ := ending?_eq_some_iff.mp hending
  obtain ⟨hcheck, last', hcourse', hended⟩ := finish_eq_ok_iff.mp hfinish
  rw [hcourse] at hcourse'
  cases hcourse'
  split at hended
  · obtain ⟨-, rfl⟩ := MemoryUnit.commit_eq_ok_iff.mp hended
    have hpasses : session.Passes last := Work.passes_of_perform hcourse
    have hopens : ∀ call ∈ last.calls, call.OpensIn named := by
      intro call hcall
      rcases hpasses.exists_rule (session.request.opens session.limits []) hcall with
        hstart | ⟨_, hopened⟩
      · exact absurd hstart List.not_mem_nil
      · exact Request.opensIn hcheck hnamed hopened
    refine MemoryUnit.denominated_publish ?_ hshared
    refine hpasses.denominated (session.request.revises session.limits) hopens ?_ ?_ hsnapshot
    · intro earlier final balance hpast
      simp at hpast
    · exact fun _ _ hmem => absurd hmem List.not_mem_nil
  · subst hended
    exact hshared

end Session

namespace Desk

variable {desk : Desk} {promise : Promise}

/-- A debt that went through was to be owed in this currency. -/
def Named (desk : Desk) (currency : Currency) : Prop :=
  ∃ success ∈ desk.done, ∃ wanted : NewDebt,
    success.session.request = .createDebt wanted ∧ wanted.debted.currency = currency

/-- The currencies of the shared tables and of all snapshots are in order. -/
structure Denominated (desk : Desk) : Prop where
  shared : desk.shared.Denominated desk.Named
  snapshots : ∀ session ∈ desk.sessions, session.snapshot.Denominated desk.Named

theorem Denominated.ended (hdenominated : desk.Denominated) {session : Session}
    {rest : List Session} (hmem : session ∈ desk.sessions) (hrest : rest ⊆ desk.sessions) :
    (desk.ended session rest).Denominated := by
  unfold Desk.ended
  split
  · next value last next hending =>
    let after : Desk :=
      { shared := next, sessions := rest, used := desk.used ++ last.supply.drawn
        done := desk.done ++ session.successes value }
    have hmore : ∀ currency, desk.Named currency → after.Named currency := by
      rintro currency ⟨success, hsuccess, hnamed⟩
      exact ⟨success, List.mem_append_left _ hsuccess, hnamed⟩
    have hnamed : ∀ wanted, session.request = .createDebt wanted →
        after.Named wanted.debted.currency := by
      intro wanted hrequest
      refine ⟨⟨session, value⟩, List.mem_append_right _ ?_, wanted, hrequest, rfl⟩
      have hchange : session.request.isChange = true := by rw [hrequest, Request.isChange]
      simp [Session.successes, hchange]
    refine ⟨?_, fun other hother => (hdenominated.snapshots other (hrest hother)).mono hmore⟩
    exact Session.denominated_of_ending hending hnamed
      ((hdenominated.snapshots session hmem).mono hmore) (hdenominated.shared.mono hmore)
  · next hending =>
    rw [Session.finish_of_ending?_eq_none hending]
    exact ⟨hdenominated.shared, fun other hother => hdenominated.snapshots other (hrest hother)⟩

theorem Denominated.turn (hdenominated : desk.Denominated) (turn : Turn) :
    (desk.turn turn).Denominated := by
  cases turn with
  | opens limits request moment uuid =>
    refine ⟨hdenominated.shared, fun session hmem => ?_⟩
    rcases List.mem_cons.mp hmem with rfl | hmem
    · exact hdenominated.shared
    · exact hdenominated.snapshots session hmem
  | joins user =>
    exact ⟨⟨hdenominated.shared.balances, hdenominated.shared.debtors⟩, hdenominated.snapshots⟩
  | ends place =>
    simp only [Desk.turn]
    split
    · next session hsession =>
      exact hdenominated.ended (List.mem_of_getElem? hsession) List.eraseIdx_subset
    · exact hdenominated

theorem Reachable.denominated (hreachable : desk.Reachable promise) : desk.Denominated := by
  induction hreachable with
  | start users => exact ⟨⟨nofun, nofun⟩, nofun⟩
  | turn turn _ _ ih => exact ih.turn turn

end Desk

namespace Tables.Consistent

variable {promise : Promise} {tables : Tables}

/-- A record is in the currency of its balance. -/
theorem isValid_record (hconsistent : tables.Consistent promise)
    (hbalances : ∀ balance ∈ tables.balances.rows, balance.currency.isValid = true)
    {record : Record} (hmem : record ∈ tables.records.rows) : record.currency.isValid = true := by
  obtain ⟨balance, hfind, -, hcurrency⟩ := hconsistent.balanced.placed record hmem
  rw [← hcurrency]
  exact hbalances balance (Table.mem_of_find? hfind)

/-- What was exchanged is in the currencies of its two records. -/
theorem isValid_exchange (hconsistent : tables.Consistent promise)
    (hrecords : ∀ record ∈ tables.records.rows, record.currency.isValid = true)
    {exchange : Exchange} (hmem : exchange ∈ tables.exchanges.rows) :
    exchange.sold.currency.isValid = true ∧ exchange.received.currency.isValid = true := by
  obtain ⟨sold, received, hrows, hsold, hreceived⟩ := hconsistent.exchanges exchange hmem
  have hstored : ∀ record ∈ [sold, received], record ∈ tables.records.rows := fun record hlisted =>
    (List.mem_filter.mp (hrows.mem_iff.mpr hlisted)).1
  rw [← hsold.money, ← hreceived.money]
  exact ⟨hrecords sold (hstored sold (by simp)), hrecords received (hstored received (by simp))⟩

/-- Each amount that a debt moved is in the currency of its record. -/
theorem isValid_received (hconsistent : tables.Consistent promise)
    (hrecords : ∀ record ∈ tables.records.rows, record.currency.isValid = true)
    {debt : Debt} (hmem : debt ∈ tables.debts.rows) :
    ∀ money ∈ debt.received, money.currency.isValid = true := by
  obtain ⟨-, posted, hrows, -, -, hreceived⟩ := hconsistent.debts debt hmem
  rw [hreceived]
  intro money hmoney
  obtain ⟨record, hposted, rfl⟩ := List.mem_map.mp hmoney
  exact hrecords record (List.mem_filter.mp (hrows.mem_iff.mpr hposted)).1

end Tables.Consistent

namespace Desk

/-- Whatever the sessions do, the currencies of balances, records and exchanges and of all
that debts moved are valid.  Debts are owed in the currency of the debtor, and that is one
which a debt that went through has named. -/
theorem reachable_denominated {desk : Desk} (hreachable : desk.Reachable .distinct) :
    (∀ balance ∈ desk.shared.balances.rows, balance.currency.isValid = true) ∧
      (∀ record ∈ desk.shared.records.rows, record.currency.isValid = true) ∧
      (∀ exchange ∈ desk.shared.exchanges.rows,
        exchange.sold.currency.isValid = true ∧ exchange.received.currency.isValid = true) ∧
      (∀ debt ∈ desk.shared.debts.rows,
        (∀ money ∈ debt.received, money.currency.isValid = true) ∧
          ∃ debtor, desk.shared.debtors.find? debt.debtorId = some debtor ∧
            debt.debted.currency = debtor.currency) ∧
      ∀ debtor ∈ desk.shared.debtors.rows, desk.Named debtor.currency := by
  have hconsistent := hreachable.consistent
  have hdenominated := hreachable.denominated.shared
  have hrecords : ∀ record ∈ desk.shared.records.rows, record.currency.isValid = true :=
    fun record hmem => hconsistent.isValid_record hdenominated.balances hmem
  refine ⟨hdenominated.balances, hrecords,
    fun exchange hmem => hconsistent.isValid_exchange hrecords hmem,
    fun debt hmem => ⟨hconsistent.isValid_received hrecords hmem, ?_⟩, hdenominated.debtors⟩
  obtain ⟨debtor, hfind, -, -, hcurrency⟩ := hconsistent.owed.debtor debt hmem
  exact ⟨debtor, hfind, hcurrency.symm⟩

theorem denominated_evening :
    evening.shared.debts.rows.length = 1 ∧ evening.shared.exchanges.rows.length = 1 ∧
      (∀ balance ∈ evening.shared.balances.rows, balance.currency.isValid = true) ∧
      (∀ record ∈ evening.shared.records.rows, record.currency.isValid = true) ∧
      (∀ exchange ∈ evening.shared.exchanges.rows,
        exchange.sold.currency.isValid = true ∧ exchange.received.currency.isValid = true) ∧
      (∀ debt ∈ evening.shared.debts.rows,
        (∀ money ∈ debt.received, money.currency.isValid = true) ∧
          ∃ debtor, evening.shared.debtors.find? debt.debtorId = some debtor ∧
            debt.debted.currency = debtor.currency) ∧
      ∀ debtor ∈ evening.shared.debtors.rows, evening.Named debtor.currency :=
  ⟨by decide +kernel, by decide +kernel, reachable_denominated (evening_reachable _)⟩

/-- A loan of fifty in a currency that there is not, of which nothing is paid out. -/
def unheardTurns : List Turn :=
  [opens 1 (.createDebt ⟨cashier.id, "Ann", none, .lend, ⟨50, ⟨"xx"⟩⟩, [], none⟩), .ends 0]

/-- No check asks whether a debtor's currency is valid. -/
theorem exists_invalid_debtor :
    (morning.run unheardTurns).Reachable .distinct ∧
      ∃ debtor ∈ (morning.run unheardTurns).shared.debtors.rows,
        debtor.currency.isValid = false ∧
          ∃ debt ∈ (morning.run unheardTurns).shared.debts.rows,
            debt.debtorId = debtor.id ∧ debt.debted.currency.isValid = false :=
  ⟨(Reachable.start _).run (by decide +kernel), by decide +kernel⟩

end Desk

end CashLedger
